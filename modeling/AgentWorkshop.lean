import AgentWorkshop.Main
import AgentWorkshop.Proofs.Chat.Answer
import AgentWorkshop.Proofs.Chat.BuildLog
import AgentWorkshop.Proofs.Chat.Degradation
import AgentWorkshop.Proofs.Chat.Display
import AgentWorkshop.Proofs.Chat.Freshness
import AgentWorkshop.Proofs.Chat.Handoff
import AgentWorkshop.Proofs.Chat.Keeping
import AgentWorkshop.Proofs.Chat.Listing
import AgentWorkshop.Proofs.Chat.LogLaws
import AgentWorkshop.Proofs.Chat.Loop
import AgentWorkshop.Proofs.Chat.Metrics
import AgentWorkshop.Proofs.Chat.Operations
import AgentWorkshop.Proofs.Chat.Readers
import AgentWorkshop.Proofs.Chat.Record
import AgentWorkshop.Proofs.Chat.Status
import AgentWorkshop.Proofs.Chat.Structured
import AgentWorkshop.Proofs.Chat.Survival
import AgentWorkshop.Proofs.Console.Notice
import AgentWorkshop.Proofs.Files.Document
import AgentWorkshop.Proofs.Files.Overwriting
import AgentWorkshop.Proofs.Project.Asking
import AgentWorkshop.Proofs.Project.Failures
import AgentWorkshop.Proofs.Project.Manifest
import AgentWorkshop.Proofs.Project.NameRule
import AgentWorkshop.Proofs.Project.News
import AgentWorkshop.Proofs.Project.Sequence
import AgentWorkshop.Proofs.Project.Soundness
import AgentWorkshop.Proofs.Project.Update
import AgentWorkshop.Proofs.Project.Version
