import TileBrain.Catalog.Layout
import TileBrain.Main
import TileBrain.Proofs.Accumulation
import TileBrain.Proofs.Audit.Caps
import TileBrain.Proofs.Audit.Clean
import TileBrain.Proofs.Audit.Legality
import TileBrain.Proofs.Audit.Repair
import TileBrain.Proofs.Audit.Stored
import TileBrain.Proofs.Audit.Undoing
import TileBrain.Proofs.Authoring
import TileBrain.Proofs.Authorship
import TileBrain.Proofs.Brain.Upkeep
import TileBrain.Proofs.Catalog.Declared
import TileBrain.Proofs.ChainEnd
import TileBrain.Proofs.Decoding
import TileBrain.Proofs.Decoding.BestEffort
import TileBrain.Proofs.Decoding.Silent
import TileBrain.Proofs.Decoding.Text
import TileBrain.Proofs.Decoding.Unresolved
import TileBrain.Proofs.Growth
import TileBrain.Proofs.Json.Numbers
import TileBrain.Proofs.Json.Overlong
import TileBrain.Proofs.Json.RoundTrip
import TileBrain.Proofs.Json.Written
import TileBrain.Proofs.Locality
import TileBrain.Proofs.MergeOrder
import TileBrain.Proofs.Placement
import TileBrain.Proofs.Record.Canonical
import TileBrain.Proofs.Record.Faithful
import TileBrain.Proofs.Record.Grammar
import TileBrain.Proofs.Record.Mending
import TileBrain.Proofs.Record.Missing
import TileBrain.Proofs.Record.Reading
import TileBrain.Proofs.Record.Resolution
import TileBrain.Proofs.Record.Strict
import TileBrain.Proofs.Relabeling
import TileBrain.Proofs.Retirement
import TileBrain.Proofs.Session
import TileBrain.Proofs.Storage.Brain
import TileBrain.Proofs.Suggestion
import TileBrain.Proofs.Tile.RoundTrip
