import Masm.Spec.Jobs
import Masm.Spec.Worker
import Masm.Spec.Create
import Masm.Spec.ExitEvents
import Masm.Spec.Shutdown
import Masm.Spec.Aggregation
import Masm.Spec.CorpusInfo
import Masm.Spec.LAConfig
import Masm.Spec.IdxUpdate
import Masm.Spec.Query
import Masm.Spec.Restore
import Masm.Proofs.Jobs
import Masm.Proofs.Worker
import Masm.Proofs.Restart
import Masm.Proofs.Create
import Masm.Proofs.ExitEvents
import Masm.Proofs.Shutdown
import Masm.Proofs.Aggregation
import Masm.Proofs.GroupBib
import Masm.Proofs.CorpusInfo
import Masm.Proofs.LAConfig
import Masm.Proofs.IdxUpdate
import Masm.Proofs.Registry
import Masm.Proofs.Query
import Masm.Proofs.Answer
import Masm.Proofs.Restore
