import Masm.Spec.ExitEvents

/-! The exit channels under every interleaving. Each worker's id keys its own channel, open
until the worker closes it, so the worker's `close(a.vteExitEvents[status.ID])` never
closes `nil` or a closed channel, and every running job has its entry. The converse fails:
a call of `createDataFromJobStatus` whose extraction does not start returns before any
worker exists and leaves its channel in the map. And the senders' lookup and send are two
steps: a worker can close the channel in between, and the send then panics. -/

namespace Masm

/-- What every reachable state satisfies: channels are numbered below `made`, the map
gives each channel to one job, and each worker's id keys a channel that is closed exactly
once the worker has closed it. -/
structure ExitInv (s : ExitSys) : Prop where
  made : ∀ id ch, s.vteExitEvents.lookup id = some ch → ch < s.made
  closed_made : ∀ ch ∈ s.closed, ch < s.made
  distinct : ∀ id id' ch, s.vteExitEvents.lookup id = some ch →
    s.vteExitEvents.lookup id' = some ch → id = id'
  worker : ∀ id pc, s.workers.lookup id = some pc →
    ∃ ch, s.vteExitEvents.lookup id = some ch ∧ (ch ∈ s.closed ↔ pc = .deleting)

theorem ExitInv.init : ExitInv {} :=
  ⟨fun _ _ h => by simp at h, fun _ h => by simp at h, fun _ _ _ h => by simp at h,
    fun _ _ h => by simp at h⟩

section Step

variable {s s' : ExitSys}

@[simp] theorem ExitSys.setSender_vteExitEvents (pc : SenderPc) (who : Sender) :
    (s.setSender pc who).vteExitEvents = s.vteExitEvents := by cases who <;> rfl

@[simp] theorem ExitSys.setSender_made (pc : SenderPc) (who : Sender) :
    (s.setSender pc who).made = s.made := by cases who <;> rfl

@[simp] theorem ExitSys.setSender_closed (pc : SenderPc) (who : Sender) :
    (s.setSender pc who).closed = s.closed := by cases who <;> rfl

@[simp] theorem ExitSys.setSender_workers (pc : SenderPc) (who : Sender) :
    (s.setSender pc who).workers = s.workers := by cases who <;> rfl

theorem ExitInv.setSender (h : ExitInv s) (pc : SenderPc) (who : Sender) :
    ExitInv (s.setSender pc who) := by
  obtain ⟨h1, h2, h3, h4⟩ := h
  exact ⟨by simpa using h1, by simpa using h2, by simpa using h3, by simpa using h4⟩

theorem ExitInv.createData (h : ExitInv s) {id : String} {started : Bool}
    (hw : id ∉ s.workers) :
    ExitInv { s with vteExitEvents := s.vteExitEvents.insert id s.made, made := s.made + 1,
                     workers := if started then s.workers.insert id .running else s.workers } := by
  have hlk : ∀ id', s.vteExitEvents.lookup id' ≠ some s.made := fun id' h' =>
    Nat.lt_irrefl _ (h.made _ _ h')
  refine ⟨fun id' ch h' => ?_, fun ch hc => Nat.lt_succ_of_lt (h.closed_made ch hc),
    fun a b ch ha hb => ?_, fun id' pc h' => ?_⟩
  · rcases lookup_insert_eq_some.1 h' with ⟨-, rfl⟩ | ⟨-, h'⟩
    exacts [Nat.lt_succ_self _, Nat.lt_succ_of_lt (h.made _ _ h')]
  · rcases lookup_insert_eq_some.1 ha with ⟨rfl, rfl⟩ | ⟨-, hao⟩
    · rcases lookup_insert_eq_some.1 hb with ⟨rfl, -⟩ | ⟨-, hbo⟩
      exacts [rfl, absurd hbo (hlk b)]
    · rcases lookup_insert_eq_some.1 hb with ⟨rfl, rfl⟩ | ⟨-, hbo⟩
      exacts [absurd hao (hlk a), h.distinct _ _ _ hao hbo]
  · have hnew : id' = id ∧ pc = .running ∨ id' ≠ id ∧ s.workers.lookup id' = some pc := by
      cases started
      · simp only [Bool.false_eq_true, ite_false] at h'
        exact .inr ⟨fun e => hw (AList.lookup_isSome.1 (by rw [← e, h']; rfl)), h'⟩
      · simp only [ite_true] at h'
        exact (lookup_insert_eq_some.1 h').imp_left fun ⟨e, p⟩ => ⟨e, p.symm⟩
    rcases hnew with ⟨rfl, rfl⟩ | ⟨hne, h'⟩
    · exact ⟨_, AList.lookup_insert _,
        by simpa using fun hc => Nat.lt_irrefl _ (h.closed_made _ hc)⟩
    · obtain ⟨ch, hch, hcl⟩ := h.worker _ _ h'
      exact ⟨ch, by rw [AList.lookup_insert_ne hne, hch], hcl⟩

theorem ExitInv.step (h : ExitInv s) {a : ExitAction} (hs : exitStep s a = some s') :
    ExitInv s' := by
  cases a with
  | createData id started =>
    simp only [exitStep] at hs
    split at hs
    · cases hs
    · rename_i hfresh
      cases hs; exact h.createData fun hw => hfresh (.inr hw)
  | finish id =>
    simp only [exitStep] at hs
    split_ifs at hs with hrun
    cases hs
    refine ⟨h.made, h.closed_made, h.distinct, fun id' pc h' => ?_⟩
    rcases lookup_insert_eq_some.1 h' with ⟨rfl, rfl⟩ | ⟨-, h'⟩
    · obtain ⟨ch, hch, hcl⟩ := h.worker _ _ hrun
      exact ⟨ch, hch, by simpa using hcl⟩
    · exact h.worker _ _ h'
  | closeExit id =>
    simp only [exitStep] at hs
    split at hs
    · rename_i ch hw hch
      cases hs
      refine ⟨h.made, fun c hc => ?_, h.distinct, fun id' pc h' => ?_⟩
      · rcases List.mem_cons.1 hc with rfl | hc
        exacts [h.made _ _ hch, h.closed_made _ hc]
      · rcases lookup_insert_eq_some.1 h' with ⟨rfl, rfl⟩ | ⟨hid, h'⟩
        · exact ⟨ch, hch, by simp⟩
        · obtain ⟨c, hc, hcl⟩ := h.worker _ _ h'
          have hne : c ≠ ch := fun he => hid (h.distinct _ _ _ hc (he ▸ hch))
          exact ⟨c, hc, by simpa [hne] using hcl⟩
    · cases hs
  | deleteExit id =>
    simp only [exitStep] at hs
    split_ifs at hs
    cases hs
    refine ⟨fun id' ch h' => h.made _ _ (lookup_erase_eq_some.1 h').2, h.closed_made,
      fun a b ch ha hb => h.distinct _ _ _ (lookup_erase_eq_some.1 ha).2
        (lookup_erase_eq_some.1 hb).2, fun id' pc h' => ?_⟩
    obtain ⟨hid, h'⟩ := lookup_erase_eq_some.1 h'
    obtain ⟨ch, hch, hcl⟩ := h.worker _ _ h'
    exact ⟨ch, lookup_erase_eq_some.2 ⟨hid, hch⟩, hcl⟩
  | lookup who id =>
    simp only [exitStep] at hs
    split at hs
    · cases hs; exact h.setSender _ _
    · cases hs
  | deliver who =>
    simp only [exitStep] at hs
    split at hs
    · split_ifs at hs; cases hs; exact h.setSender _ _
    · cases hs

theorem ExitInv.run (h : ExitInv s) {acts : List ExitAction}
    (hr : exitRun s acts = some s') : ExitInv s' := by
  induction acts generalizing s with
  | nil => cases hr; exact h
  | cons a as ih =>
    obtain ⟨m, hm, hrest⟩ := Option.bind_eq_some.1 hr
    exact ih (h.step hm) hrest

end Step

theorem ExitReachable.inv {s : ExitSys} (hs : ExitReachable s) : ExitInv s :=
  let ⟨_, hr⟩ := hs
  ExitInv.init.run hr

/-- In every interleaving, a worker that has closed its update channel finds its own
channel under its id, still open: its `close` neither closes `nil` nor closes twice. -/
theorem closeExit_closes_open_channel {s : ExitSys} (hs : ExitReachable s) {id : String}
    (hw : s.workers.lookup id = some .closing) :
    ∃ ch, s.vteExitEvents.lookup id = some ch ∧ ch ∉ s.closed := by
  obtain ⟨ch, hch, hcl⟩ := hs.inv.worker _ _ hw
  exact ⟨ch, hch, fun hc => by simpa using hcl.1 hc⟩

/-- A job's worker finishes while a stop request has looked its channel up: the channel it is
about to close is still open. -/
theorem closeExit_closes_open_channel_after_lookup :
    ∃ s, ExitReachable s ∧ s.workers.lookup "j" = some .closing ∧
      ∃ ch, s.vteExitEvents.lookup "j" = some ch ∧ ch ∉ s.closed := by
  have hs : ExitReachable _ :=
    ⟨[.createData "j" true, .lookup .stopListener "j", .finish "j"], rfl⟩
  exact ⟨_, hs, rfl, closeExit_closes_open_channel hs rfl⟩

/-- From `NewActions`, a `Create` whose extraction fails to start returns with an error
and leaves an entry for its job, which has no worker. -/
theorem failed_start_leaves_exit_channel :
    ∃ s, exitStep {} (.createData "j" false) = some s ∧
      ({} : ExitSys).vteExitEvents.lookup "j" = none ∧ s.vteExitEvents.lookup "j" = some 0 ∧
      s.workers.lookup "j" = none :=
  ⟨_, rfl, rfl, rfl, rfl⟩

/-- A stop request and the exit broadcaster both look up a running job's channel; the job's
worker then finishes and closes it, while both are about to send on it. -/
theorem senders_send_on_closed_channel :
    ∃ s, ExitReachable s ∧ ∃ ch, ch ∈ s.closed ∧
      s.stopListener = .sending ch ∧ s.exitBroadcaster = .sending ch :=
  ⟨_, ⟨[.createData "j" true, .lookup .stopListener "j", .lookup .exitBroadcaster "j",
      .finish "j", .closeExit "j"], rfl⟩, 0, by decide, rfl, rfl⟩

end Masm
