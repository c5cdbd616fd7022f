import Parley.App
import Parley.Json.Reader
import Parley.Main
import Parley.Yaml.Value
import Parley.Proofs.Display.Plain
import Parley.Proofs.Provider.Chunks
import Parley.Proofs.Relay.Delivery
import Parley.Proofs.Session.Cancelled
import Parley.Proofs.Session.Modes
import Parley.Proofs.Turn.Stream
import Parley.Proofs.Turn.Unheard
import Parley.Proofs.Turn.Outcome
import Parley.Proofs.Relay.Verdict
import Parley.Proofs.Session.Prompt
import Parley.Proofs.Session.Asking
import Parley.Proofs.Provider.Pipeline
import Parley.Proofs.Store.Log
import Parley.Proofs.Turn.Apart
import Parley.Proofs.Session.Bracketed
import Parley.Proofs.Display.Frames
import Parley.Proofs.Config.Layers
import Parley.Proofs.Relay.Partial
import Parley.Proofs.Session.Interrupted
import Parley.Proofs.Command.Grammar
import Parley.Proofs.Provider.Translation
import Parley.Proofs.Provider.Pulling
import Parley.Proofs.Provider.Corruption
import Parley.Proofs.Provider.EmptyChunks
import Parley.Proofs.Provider.Padding
import Parley.Proofs.Provider.Taking
import Parley.Proofs.Provider.Finite
import Parley.Proofs.Saved.Transcript
