import TileBrain.Record.Basic

/-! # From brains to records

Of a tile, only its identifier is stored.

Nothing is looked up for that, so that every brain can be encoded, whatever catalog its tiles are
from. What has no text for an identifier is encoded all the same, and not decoded again.
-/

namespace TileBrain

/-- A tile whose identifier is null leaves its slot empty. -/
def Rule.toRecord (rule : Rule) : RuleRecord Json where
  condition := rule.condition
  sensor := rule.sensor.bind (·.id.present?)
  actuator := rule.actuator.bind (·.id.present?)
  filters := rule.filters.map Tile.id
  modifiers := rule.modifiers.map Tile.id

def Page.toRecord (page : Page) : PageRecord Json := ⟨page.rules.map Rule.toRecord⟩

def Brain.toRecord (brain : Brain) : BrainRecord Json := ⟨brain.pages.map Page.toRecord⟩

def Rule.toJson (rule : Rule) : Json := rule.toRecord.toJson id

def Page.toJson (page : Page) : Json := page.toRecord.toJson id

def Brain.toJson (brain : Brain) : Json := brain.toRecord.toJson id

/-- The text of a brain, on one line unless an indentation is given. -/
def Brain.render (brain : Brain) (indent : Option Int) : String := brain.toRecord.render id indent

end TileBrain
