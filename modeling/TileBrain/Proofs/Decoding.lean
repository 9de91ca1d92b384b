import TileBrain.Catalog.Builtin
import TileBrain.Decoding
import TileBrain.Proofs.Json.RoundTrip
import TileBrain.Proofs.Record.Reading
import TileBrain.Proofs.Record.Resolution

/-! # Decoding undoes encoding

What was encoded from a rule, a page or a brain over a catalog is decoded to the same again, as data
and as text. Only the policy that drops tiles makes a difference, since it repairs rules; it does
that here without dropping a tile.

`DecodeOptions.yields_encoded` says so for data, in either mode and under every policy, and
`Brain.decoded_render` for text with any indentation. Identifiers have to be texts, which those of
declared tiles are: what else an identifier may be is stored as it is, but never read.
-/

namespace TileBrain

namespace DecodeOptions

variable (options : DecodeOptions)

/-- Reading and resolving, one after the other. -/
private theorem yields_steps {ρ α : Type} {level : Level} {json : Json} {record : ρ} {value : α}
    {read : Json → Reported RecordFault ρ} {resolve : ρ → Reported Unresolved α}
    (source : readSource json = pure json) (isRead : read json = pure record)
    (resolved : (resolve record).Yields level value) :
    Reported.Yields (do
      let json ← readSource json
      let record ← (read json).mapError DecodeError.record
      (resolve record).mapError .unresolved) level value := by
  have given : (readSource json).Yields level json := by
    rw [source]
    exact Reported.yields_pure level json
  have recorded : (read json).Yields level record := by
    rw [isRead]
    exact Reported.yields_pure level record
  apply given.bind
  apply (recorded.mapError _).bind
  exact resolved.mapError _

theorem yields_decodeRule (texts : options.catalog.HasTextIds) {rule : Rule}
    (taken : rule.TakenFrom options.catalog) :
    (options.decodeRule rule.toJson).Yields .warning (options.policy.settle rule) := by
  have read : RuleRecord.read options.mode rule.toJson = pure rule.textRecord := by
    rw [Rule.toJson_eq_textRecord texts taken, RuleRecord.read_toJson]
  exact yields_steps rfl read (taken.yields_resolveAlone texts options.policy)

theorem yields_decodePage (texts : options.catalog.HasTextIds) {page : Page}
    (taken : page.TakenFrom options.catalog) :
    (options.decodePage page.toJson).Yields .warning (options.policy.settlePage page) := by
  have read : PageRecord.read options.mode page.toJson = pure page.textRecord := by
    rw [Page.toJson_eq_textRecord texts taken, PageRecord.read_toJson]
  exact yields_steps rfl read (taken.yields_resolveUnder texts options.policy)

theorem yields_decodeBrain (texts : options.catalog.HasTextIds) {brain : Brain}
    (taken : brain.TakenFrom options.catalog) :
    (options.decodeBrain brain.toJson).Yields .warning (options.policy.settleBrain brain) := by
  have read : BrainRecord.read options.mode brain.toJson = pure brain.textRecord := by
    rw [Brain.toJson_eq_textRecord texts taken, BrainRecord.read_toJson]
  exact yields_steps rfl read (taken.yields_resolveUnder texts options.policy)

/-- Encoded rules, pages and brains are decoded without a warning to what they were encoded from,
repaired where the policy is to drop tiles. -/
theorem yields_encoded (texts : options.catalog.HasTextIds) :
    (∀ rule : Rule, rule.TakenFrom options.catalog →
      (options.decodeRule rule.toJson).Yields .warning
        (if options.policy = .dropTile then rule.repair else rule)) ∧
    (∀ page : Page, page.TakenFrom options.catalog →
      (options.decodePage page.toJson).Yields .warning
        (if options.policy = .dropTile then page.repair else page)) ∧
    ∀ brain : Brain, brain.TakenFrom options.catalog →
      (options.decodeBrain brain.toJson).Yields .warning
        (if options.policy = .dropTile then brain.repair else brain) := by
  refine ⟨?_, ?_, ?_⟩
  · intro rule taken
    rw [← Policy.settle_eq]
    exact options.yields_decodeRule texts taken
  · intro page taken
    rw [← Policy.settlePage_eq]
    exact options.yields_decodePage texts taken
  · intro brain taken
    rw [← Policy.settleBrain_eq]
    exact options.yields_decodeBrain texts taken

end DecodeOptions

namespace Builtin

/-- A rule whose filters were left over, one of them twice. -/
def leftover : Rule :=
  { Rule.empty with
    condition := .low
    filters := [subjectFilter FilterId.apple "Apple", subjectFilter FilterId.apple "Apple"]
    actuator := catalog.get? .actuator (.str ActuatorId.move) }

/-- A brain with a leftover, and with an empty rule at the end of its first page. -/
def straying : Brain := ⟨⟨[⟨[leftover, .empty]⟩, .empty, .empty, .empty, .empty], rfl⟩⟩

/-- Decoding leniently under the repairing policy drops the leftover filters and nothing else. -/
theorem yields_encoded_straying :
    catalog.HasTextIds ∧ leftover.TakenFrom catalog ∧ straying.TakenFrom catalog ∧
      ((DecodeOptions.mk catalog .lenient .dropTile).decodeRule leftover.toJson).Yields .warning
        leftover.repair ∧
      ((DecodeOptions.mk catalog .lenient .dropRule).decodeRule leftover.toJson).Yields .warning
        leftover ∧
      ((DecodeOptions.mk catalog .lenient .dropTile).decodeBrain straying.toJson).Yields .warning
        straying.repair ∧ straying.repair ≠ straying := by
  have texts : catalog.HasTextIds := by decide +kernel
  have rule : leftover.TakenFrom catalog := by decide +kernel
  have brain : straying.TakenFrom catalog := by decide +kernel
  have repairing := (DecodeOptions.mk catalog .lenient .dropTile).yields_encoded texts
  have dropping := (DecodeOptions.mk catalog .lenient .dropRule).yields_encoded texts
  exact ⟨texts, rule, brain, repairing.1 leftover rule, dropping.1 leftover rule,
    repairing.2.2 straying brain, by decide +kernel⟩

end Builtin

theorem BrainRecord.regular_layout (indent : Option Int) : (BrainRecord.layout indent).Regular := by
  cases indent with
  | none => exact Json.Layout.regular_compact
  | some spaces => exact Json.Layout.regular_lines spaces

section Text

variable {catalog : Catalog} {brain : Brain}

theorem Brain.restorable_toJson (texts : catalog.HasTextIds) (taken : brain.TakenFrom catalog) :
    brain.toJson.Restorable := by
  rw [Brain.toJson_eq_textRecord texts taken]
  exact brain.textRecord.restorable_toJson

private theorem Brain.readText_render (texts : catalog.HasTextIds) (taken : brain.TakenFrom catalog)
    (indent : Option Int) : readText (brain.render indent) = pure brain.toJson := by
  have parsed : Json.parse (brain.render indent) = .ok brain.toJson :=
    Json.parse_render (BrainRecord.regular_layout indent) (Brain.restorable_toJson texts taken)
  rw [readText, parsed]
  rfl

/-- A brain's text is ASCII. -/
theorem Brain.isAscii_render (texts : catalog.HasTextIds) (taken : brain.TakenFrom catalog)
    (indent : Option Int) : ∀ c ∈ (brain.render indent).toList, c.toNat < 0x80 := by
  intro c member
  exact of_decide_eq_true (Json.isAscii_of_mem_render (BrainRecord.regular_layout indent)
    (Brain.restorable_toJson texts taken) member)

theorem Brain.outcome_decodeBrain_toJson (texts : catalog.HasTextIds)
    (taken : brain.TakenFrom catalog) :
    ((DecodeOptions.mk catalog .strict .raise).decodeBrain brain.toJson).outcome = .ok brain := by
  have yields := (DecodeOptions.mk catalog .strict .raise).yields_decodeBrain texts taken
  rw [yields.outcome, Policy.settleBrain_eq]
  rfl

theorem Brain.outcome_decodeText_render (texts : catalog.HasTextIds)
    (taken : brain.TakenFrom catalog) (indent : Option Int) :
    ((DecodeOptions.mk catalog .strict .raise).decodeText (brain.render indent)).outcome =
      .ok brain := by
  rw [DecodeOptions.decodeText, Brain.readText_render texts taken indent, pure_bind]
  exact Brain.outcome_decodeBrain_toJson texts taken

theorem Brain.outcome_decodeBrain_render (texts : catalog.HasTextIds)
    (taken : brain.TakenFrom catalog) (indent : Option Int) :
    ((DecodeOptions.mk catalog .strict .raise).decodeBrain (.str (brain.render indent))).outcome =
      .ok brain := by
  rw [DecodeOptions.decodeBrain, readSource, Brain.readText_render texts taken indent]
  exact Brain.outcome_decodeBrain_toJson texts taken

/-- A brain's text is ASCII, and the brain comes back from it, whichever way the text is given. -/
theorem Brain.decoded_render (texts : catalog.HasTextIds) (taken : brain.TakenFrom catalog)
    (indent : Option Int) :
    (∀ c ∈ (brain.render indent).toList, c.toNat < 0x80) ∧
      ((DecodeOptions.mk catalog .strict .raise).decodeText (brain.render indent)).outcome =
        .ok brain ∧
      ((DecodeOptions.mk catalog .strict .raise).decodeBrain (.str (brain.render indent))).outcome =
        .ok brain :=
  ⟨Brain.isAscii_render texts taken indent, Brain.outcome_decodeText_render texts taken indent,
    Brain.outcome_decodeBrain_render texts taken indent⟩

end Text

/-- A sensor whose identifier has a quote, a backslash, control characters, and characters of one
unit and of two beyond ASCII. -/
def Tile.escaped : Tile :=
  ⟨.str "\"\\\n\x7fé😀", .str "escaped", .null, false, .null, none, .sensor .pre⟩

def Catalog.escaped : Catalog := ⟨[Tile.escaped], by decide, by decide⟩

/-- The sensor is placed twice, and empty rules follow. -/
def Brain.escaped : Brain :=
  ⟨⟨[⟨[{ Rule.empty with sensor := some Tile.escaped }, .empty]⟩, .empty, .empty,
    ⟨[{ Rule.empty with condition := .high, sensor := some Tile.escaped }, .empty, .empty]⟩,
    .empty], rfl⟩⟩

/-- The brain comes back from a text with that identifier in it, whose lines are not indented. -/
theorem Brain.decoded_render_escaped :
    Catalog.escaped.HasTextIds ∧ Brain.escaped.TakenFrom Catalog.escaped ∧
      (∀ c ∈ (Brain.escaped.render (some (-1))).toList, c.toNat < 0x80) ∧
      ((DecodeOptions.mk Catalog.escaped .strict .raise).decodeText
        (Brain.escaped.render (some (-1)))).outcome = .ok Brain.escaped ∧
      ((DecodeOptions.mk Catalog.escaped .strict .raise).decodeBrain
        (.str (Brain.escaped.render (some (-1))))).outcome = .ok Brain.escaped := by
  have texts : Catalog.escaped.HasTextIds := by decide +kernel
  have taken : Brain.escaped.TakenFrom Catalog.escaped := by decide +kernel
  exact ⟨texts, taken, Brain.decoded_render texts taken (some (-1))⟩

end TileBrain
