import ArenaChain.Handle
import ArenaChain.Linked
import ArenaChain.Store
import ArenaChain.Store.Arena
import ArenaChain.Store.Recycling
import ArenaChain.Store.Pool
import ArenaChain.RecordText
import ArenaChain.OrderBuffer
import ArenaChain.ChainError
import ArenaChain.Chain.Traversal
import ArenaChain.Chain.Connection
import ArenaChain.Log
import ArenaChain.Chain.Event
import ArenaChain.Chain.Rebuild
import ArenaChain.Chain.Assembly
import ArenaChain.Session
import ArenaChain.Demo
import ArenaChain.Main
import ArenaChain.Proofs.Path
import ArenaChain.Proofs.Agreement
import ArenaChain.Proofs.Outcome
import ArenaChain.Proofs.Connectable
import ArenaChain.Proofs.Watched
import ArenaChain.Proofs.Identity
import ArenaChain.Proofs.Failure
import ArenaChain.Proofs.Cursor
import ArenaChain.Proofs.Arrangement
import ArenaChain.Proofs.Redirection
import ArenaChain.Proofs.Transcript
import ArenaChain.Proofs.Ending
import ArenaChain.Proofs.Frame
import ArenaChain.Proofs.Successor
import ArenaChain.Proofs.Reordering
import ArenaChain.Proofs.Linking
import ArenaChain.Proofs.LastOrder
import ArenaChain.Proofs.Correspondence
import ArenaChain.Proofs.Translation
import ArenaChain.Proofs.Renaming
import ArenaChain.Proofs.SessionCorrespondence
import ArenaChain.Proofs.Interchange
import ArenaChain.Proofs.Resizing
import ArenaChain.Proofs.BoundedOrder
import ArenaChain.Proofs.Ledger
import ArenaChain.Proofs.WriteCount
import ArenaChain.Proofs.FirstFault
import ArenaChain.Proofs.Assembly
import ArenaChain.Proofs.Reuse
import ArenaChain.Proofs.Circling
import ArenaChain.Proofs.Account
import ArenaChain.Proofs.Locality
import ArenaChain.Proofs.Removal
import ArenaChain.Proofs.Repetition
import ArenaChain.Proofs.ErrorText
