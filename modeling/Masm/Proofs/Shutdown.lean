import Masm.Spec.Shutdown

/-! The shutdown under every interleaving. The one value sent on `exitEvent` goes to `main`
or to the exit listener, never to both: once `main` has it, no exit channel is ever
interrupted, and `main` does not wait for the listener. And `OnExit` closes `usageData`
while the server still serves, so a query past its cache miss at that time, or one that
misses the cache in between, sends on the closed channel. -/

namespace Masm

/-- What every reachable state from the exit channels `chans` satisfies. -/
structure ShutdownInv (chans : List Nat) (s : ShutdownSys) : Prop where
  usage : s.usageClosed = true ↔ s.signal ≠ .waiting
  undelivered : s.signal = .waiting ∨ s.signal = .sending →
    s.main.gotSignal = false ∧ s.listener = .waiting ∧ s.interrupted = []
  one_receiver : s.main.gotSignal = true →
    s.interrupted = [] ∧ (s.listener = .waiting ∨ s.listener = .done)
  forwarding : ∀ p, s.listener = .forwarding p → s.interrupted ++ p = chans
  returned : ∀ g, s.main = .returned g → s.inFlight = 0
  registered : s.vteExitEvents = chans

theorem ShutdownInv.init (chans : List Nat) : ShutdownInv chans { vteExitEvents := chans } :=
  ⟨by simp, fun _ => ⟨rfl, rfl, rfl⟩, fun h => by simp [MainPc.gotSignal] at h,
    fun _ h => by simp at h, fun _ h => by simp at h, rfl⟩

section Step

variable {chans : List Nat} {s s' : ShutdownSys}

theorem ShutdownInv.step (h : ShutdownInv chans s) {a : ShutdownAction}
    (hs : shutdownStep s a = some s') : ShutdownInv chans s' := by
  obtain ⟨hu, hund, hone, hfwd, hret, hreg⟩ := h
  cases a with
  | signalArrives =>
    simp only [shutdownStep] at hs
    split_ifs at hs with hw
    cases hs
    exact ⟨by simp, fun _ => hund (.inl hw), hone, hfwd, hret, hreg⟩
  | signalCloses =>
    simp only [shutdownStep] at hs
    split_ifs at hs with hsent
    cases hs
    exact ⟨by simpa [hsent] using hu, by simp, hone, hfwd, hret, hreg⟩
  | mainReceives =>
    simp only [shutdownStep] at hs
    split at hs
    · rename_i hm hsig
      cases hs
      obtain ⟨-, hl, hi⟩ := hund (.inr hsig)
      exact ⟨by simpa [hsig] using hu, by simp, fun _ => ⟨hi, .inl hl⟩, hfwd,
        fun _ => nofun, hreg⟩
    · rename_i hm hsig
      cases hs
      exact ⟨hu, by simp [hsig], fun h => by simp [MainPc.gotSignal] at h, hfwd,
        fun _ => nofun, hreg⟩
    · cases hs
  | shutdownDone =>
    simp only [shutdownStep] at hs
    split at hs
    · rename_i g hm
      split_ifs at hs with h0
      cases hs
      have hg : (MainPc.returned g).gotSignal = s.main.gotSignal := by rw [hm]; rfl
      exact ⟨hu, fun h => by simpa [hg] using hund h, fun h => hone (hg ▸ h), hfwd,
        fun _ _ => h0, hreg⟩
    · cases hs
  | listenerReceives =>
    simp only [shutdownStep] at hs
    split at hs
    · rename_i hl hsig
      cases hs
      obtain ⟨hg, -, hi⟩ := hund (.inr hsig)
      exact ⟨by simpa [hsig] using hu, by simp, fun h => absurd h (by simp [hg]),
        fun p hp => by cases hp; simp [hi, hreg], hret, hreg⟩
    · rename_i hl hsig
      cases hs
      exact ⟨hu, by simp [hsig], fun h => ⟨(hone h).1, .inr rfl⟩, fun _ => nofun,
        hret, hreg⟩
    · cases hs
  | listenerForwards =>
    simp only [shutdownStep] at hs
    split at hs
    · rename_i ch rest hl
      cases hs
      have hf := hfwd _ hl
      exact ⟨hu, fun h => absurd (hund h).2.1 (by simp [hl]),
        fun h => absurd (hone h).2 (by simp [hl]),
        fun p hp => by cases hp; simpa using hf, hret, hreg⟩
    · rename_i hl
      cases hs
      exact ⟨hu, fun h => absurd (hund h).2.1 (by simp [hl]),
        fun h => absurd (hone h).2 (by simp [hl]),
        fun _ => nofun, hret, hreg⟩
    · cases hs
  | queryArrives =>
    simp only [shutdownStep] at hs
    split_ifs at hs with hm
    cases hs
    exact ⟨hu, hund, hone, hfwd, fun _ h => by simp [hm] at h, hreg⟩
  | querySends =>
    simp only [shutdownStep] at hs
    split_ifs at hs with h0
    cases hs
    exact ⟨hu, hund, hone, hfwd, fun g h => absurd (hret g h) (by omega), hreg⟩

theorem ShutdownInv.run (h : ShutdownInv chans s) {acts : List ShutdownAction}
    (hr : shutdownRun s acts = some s') : ShutdownInv chans s' := by
  induction acts generalizing s with
  | nil => cases hr; exact h
  | cons a as ih =>
    obtain ⟨m, hm, hrest⟩ := Option.bind_eq_some.1 hr
    exact ih (h.step hm) hrest

theorem shutdownStep_main {a : ShutdownAction} (hs : shutdownStep s a = some s') :
    s'.main = s.main ∨ s.main = .serving ∨ ∃ g, s.main = .shuttingDown g ∧ s'.main = .returned g := by
  cases a <;> simp only [shutdownStep] at hs <;> repeat' split at hs
  all_goals cases hs
  all_goals first | exact .inl rfl | exact .inr (.inl ‹_›) | exact .inr (.inr ⟨_, ‹_›, rfl⟩)

theorem gotSignal_step (hg : s.main.gotSignal = true) {a : ShutdownAction}
    (hs : shutdownStep s a = some s') : s'.main.gotSignal = true := by
  rcases shutdownStep_main hs with h | h | ⟨g, h, h'⟩
  · rwa [h]
  · simp [h, MainPc.gotSignal] at hg
  · simpa [h, h', MainPc.gotSignal] using hg

theorem gotSignal_run (hg : s.main.gotSignal = true) {acts : List ShutdownAction}
    (hr : shutdownRun s acts = some s') : s'.main.gotSignal = true := by
  induction acts generalizing s with
  | nil => cases hr; exact hg
  | cons a as ih =>
    obtain ⟨m, hm, hrest⟩ := Option.bind_eq_some.1 hr
    exact ih (gotSignal_step hg hm) hrest

end Step

theorem ShutdownReachable.inv {chans : List Nat} {s : ShutdownSys}
    (hs : ShutdownReachable chans s) : ShutdownInv chans s :=
  let ⟨_, hr⟩ := hs
  (ShutdownInv.init chans).run hr

theorem shutdownRun_append (s : ShutdownSys) (as bs : List ShutdownAction) :
    shutdownRun s (as ++ bs) = (shutdownRun s as).bind (shutdownRun · bs) := by
  induction as generalizing s with
  | nil => rfl
  | cons a as ih =>
    simp only [List.cons_append, shutdownRun]
    cases shutdownStep s a <;> simp [ih]

theorem ShutdownReachable.run {chans : List Nat} {s s' : ShutdownSys}
    (hs : ShutdownReachable chans s) (acts : List ShutdownAction)
    (hr : shutdownRun s acts = some s') : ShutdownReachable chans s' :=
  let ⟨pre, hpre⟩ := hs
  ⟨pre ++ acts, by rw [shutdownRun_append, hpre]; exact hr⟩

/-- In every interleaving, once `main` has received the signal value, no exit channel is
interrupted, then or in any later state. -/
theorem no_interrupt_once_main_has_signal {chans : List Nat} {s s' : ShutdownSys}
    (hs : ShutdownReachable chans s) (hg : s.main.gotSignal = true)
    {acts : List ShutdownAction} (hr : shutdownRun s acts = some s') : s'.interrupted = [] :=
  (hs.inv.run hr).one_receiver (gotSignal_run hg hr) |>.1

/-- In every interleaving, once `OnExit` has closed `usageData`, each query still past its
cache miss sends on the closed channel, whether it missed before the signal or after it. -/
theorem query_in_flight_sends_on_closed {chans : List Nat} {s : ShutdownSys}
    (hs : ShutdownReachable chans s) (hsig : s.signal ≠ .waiting) (hq : 0 < s.inFlight) :
    ∃ s', shutdownStep s .querySends = some s' ∧ s'.sendOnClosed = true := by
  have hu : s.usageClosed = true := hs.inv.usage.2 hsig
  simp [shutdownStep, hq, hu]

/-- A query misses the cache; the signal arrives and `OnExit` closes `usageData`; the query
then sends on it. -/
theorem query_sends_on_closed_usageData :
    ∃ s, ShutdownReachable [] s ∧ s.sendOnClosed = true := by
  have hs : ShutdownReachable [] _ := ⟨[.queryArrives, .signalArrives], rfl⟩
  obtain ⟨s', hstep, hclosed⟩ := query_in_flight_sends_on_closed hs (by decide) (by decide)
  exact ⟨s', hs.run [.querySends] (by simp [shutdownRun, hstep]), hclosed⟩

/-- With one extraction running, `main` receives the signal, the signal goroutine closes
`exitEvent`, the listener sees it closed and stops, and `main` returns: the extraction's
exit channel never received an interrupt. -/
theorem main_returns_before_interrupt :
    ∃ s, ShutdownReachable [0] s ∧ s.main = .returned true ∧ s.listener = .done ∧
      0 ∉ s.interrupted := by
  let s₁ : ShutdownSys :=
    { signal := .sent, main := .shuttingDown true, usageClosed := true, vteExitEvents := [0] }
  have hs : ShutdownReachable [0] s₁ := ⟨[.signalArrives, .mainReceives], rfl⟩
  have hr : shutdownRun s₁ [.signalCloses, .listenerReceives, .shutdownDone] =
      some { s₁ with signal := .closed, listener := .done, main := .returned true } := rfl
  exact ⟨_, hs.run _ hr, rfl, rfl, by simp [no_interrupt_once_main_has_signal hs rfl hr]⟩

end Masm
