import TileBrain.Proofs.Authorship

/-! # What a position of a chain depends on

Suggestions at a position of a chain, and the verdict of the audit on the tile there, depend on the
sensor, on the actuator if it is the chain of modifiers, and on the tiles of the chain up to there.
`Catalog.judgesLocally` says so, and that a tile can therefore be exchanged for any that is
suggested in its place, without an issue about it or a change in those about the tiles before it.
-/

namespace TileBrain

/-- The tiles that count for the first positions of a chain are the same. -/
structure Rule.AgreesUpTo (rule other : Rule) (chain : Chain) (count : Nat) : Prop where
  sensor : rule.sensor = other.sensor
  actuator : chain = .modifiers → rule.actuator = other.actuator
  earlier : (rule.chain chain).take count = (other.chain chain).take count

/-- The place of the tile that a finding says to be out of place. -/
def Finding.place? : Finding → Option (Chain × Nat)
  | .orphans .. => none
  | .hiddenTile _ => none
  | .afterTerminal chain _ position _ => some (chain, position)
  | .illegal chain _ position => some (chain, position)
  | .overCount .. => none

/-- The issues in an audit that say that the tile at a position of a chain is out of place. -/
def Rule.issuesAt (rule : Rule) (catalog : Catalog) (page index : Int) (chain : Chain)
    (position : Nat) : List (Issue Json) :=
  ((rule.findings catalog).filter (·.place? = some (chain, position))).map (·.toIssue page index)

/-- The rule with another tile at a position of a chain. -/
def Rule.exchange (rule : Rule) (chain : Chain) (position : Nat) (tile : Tile) : Rule :=
  rule.withChain ((rule.chain chain).set position tile) chain

/-- Chains are judged position by position, each for the tiles that count there. -/
structure Catalog.JudgesLocally (catalog : Catalog) : Prop where
  suggest (rule other : Rule) (chain : Chain) (count : Nat)
      (agrees : rule.AgreesUpTo other chain count) :
    ∀ position ≤ count, catalog.suggest rule chain position = catalog.suggest other chain position
  audit (rule other : Rule) (chain : Chain) (count : Nat)
      (agrees : rule.AgreesUpTo other chain count) (page index : Int) :
    ∀ position < count, rule.issuesAt catalog page index chain position =
      other.issuesAt catalog page index chain position
  exchange (typed : catalog.WellTyped) (rule : Rule) (chain : Chain) (position : Nat)
      (within : position < (rule.chain chain).length) (tiles : List Tile)
      (suggested : (catalog.suggest rule chain position).outcome = .ok tiles) (page index : Int) :
    ∀ tile ∈ tiles,
      (rule.exchange chain position tile).issuesAt catalog page index chain position = [] ∧
      ∀ earlier < position,
        (rule.exchange chain position tile).issuesAt catalog page index chain earlier =
          rule.issuesAt catalog page index chain earlier
  /-- The audit reports what is out of place from the first position to the last. -/
  reported (rule : Rule) (page index : Int) (issues : List (Issue Json))
      (ended : (rule.audit catalog page index).outcome = .ok issues) :
    issues.filter (·.category ∈
        [Finding.Category.terminal.label, Finding.Category.illegal.label]) =
      [Chain.filters, .modifiers].flatMap fun chain =>
        (List.range (rule.chain chain).length).flatMap
          (rule.issuesAt catalog page index chain)

namespace Rule.AgreesUpTo

variable {rule other : Rule} {chain : Chain} {count : Nat}

theorem before (agrees : rule.AgreesUpTo other chain count) :
    rule.before chain = other.before chain :=
  before_congr agrees.sensor agrees.actuator

theorem anchor? (agrees : rule.AgreesUpTo other chain count) :
    rule.anchor? chain = other.anchor? chain := by
  cases chain with
  | filters => exact agrees.sensor
  | modifiers => exact agrees.actuator rfl

/-- Rules that agree up to a length agree up to every smaller one. -/
theorem mono (agrees : rule.AgreesUpTo other chain count) {fewer : Nat} (within : fewer ≤ count) :
    rule.AgreesUpTo other chain fewer where
  sensor := agrees.sensor
  actuator := agrees.actuator
  earlier := by
    have taken := congrArg (List.take fewer) agrees.earlier
    rwa [List.take_take, List.take_take, Nat.min_eq_left within] at taken

/-- The chain is that long in both rules, or it is the same in both. -/
theorem length (agrees : rule.AgreesUpTo other chain count) :
    min count (rule.chain chain).length = min count (other.chain chain).length := by
  simpa only [List.length_take] using congrArg List.length agrees.earlier

private theorem getElem? (agrees : rule.AgreesUpTo other chain count) {position : Nat}
    (within : position < count) :
    (rule.chain chain)[position]? = (other.chain chain)[position]? := by
  rw [← List.getElem?_take_of_lt within, agrees.earlier, List.getElem?_take_of_lt within]

theorem terminalBefore? (agrees : rule.AgreesUpTo other chain count) :
    rule.terminalBefore? chain count = other.terminalBefore? chain count :=
  terminalBefore?_congr agrees.earlier

theorem offered (agrees : rule.AgreesUpTo other chain count) (catalog : Catalog) :
    catalog.offered rule chain count = catalog.offered other chain count :=
  Catalog.offered_congr agrees.before agrees.earlier

theorem suggestAt (agrees : rule.AgreesUpTo other chain count) (catalog : Catalog) :
    catalog.suggestAt rule chain count = catalog.suggestAt other chain count := by
  simp only [Catalog.suggestAt, Catalog.suggestNotice, agrees.terminalBefore?, agrees.offered]

/-- The same is suggested right behind the tiles that are the same, and reported. -/
theorem suggest (agrees : rule.AgreesUpTo other chain count) (catalog : Catalog) :
    catalog.suggest rule chain count = catalog.suggest other chain count := by
  have length := agrees.length
  unfold Catalog.suggest
  by_cases within : count ≤ (rule.chain chain).length
  · have otherWithin : count ≤ (other.chain chain).length := by omega
    rw [if_pos ⟨by omega, by omega⟩, if_pos ⟨by omega, by omega⟩, Int.toNat_natCast,
      agrees.suggestAt]
  · have sameLength : (rule.chain chain).length = (other.chain chain).length := by omega
    rw [if_neg (by omega), if_neg (by omega), sameLength]

/-- A tile behind those that are the same is in place in both rules, or in neither. -/
theorem placementFinding? (agrees : rule.AgreesUpTo other chain count) (catalog : Catalog)
    (tile : Tile) :
    rule.placementFinding? catalog chain tile count =
      other.placementFinding? catalog chain tile count := by
  simp only [Rule.placementFinding?, agrees.terminalBefore?, agrees.offered]

end Rule.AgreesUpTo

/-- Two categories of findings say that a tile is out of place. -/
theorem Finding.isSome_place?_iff {finding : Finding} :
    finding.place?.isSome = true ↔
      finding.category = .terminal ∨ finding.category = .illegal := by
  cases finding <;> simp [place?, category]

namespace Rule

variable {rule : Rule} {catalog : Catalog} {chain : Chain}

/-- What is wrong with the place of the tile at a position of a chain, if there is a tile and the
chain is looked at. -/
def findingAt? (rule : Rule) (catalog : Catalog) (chain : Chain) (position : Nat) :
    Option Finding :=
  if (rule.anchor? chain).isNone then none
  else (rule.chain chain)[position]?.bind fun tile =>
    rule.placementFinding? catalog chain tile position

private theorem place?_of_placementFinding? {tile : Tile} {position : Nat} {finding : Finding}
    (found : rule.placementFinding? catalog chain tile position = some finding) :
    finding.place? = some (chain, position) := by
  unfold placementFinding? at found
  split at found
  · obtain rfl := Option.some.inj found
    rfl
  · split at found
    · contradiction
    · obtain rfl := Option.some.inj found
      rfl

private theorem place?_of_findingAt? {position : Nat} {finding : Finding}
    (found : rule.findingAt? catalog chain position = some finding) :
    finding.place? = some (chain, position) := by
  unfold findingAt? at found
  split at found
  · contradiction
  · obtain ⟨_, _, isFound⟩ := Option.bind_eq_some_iff.mp found
    exact place?_of_placementFinding? isFound

/-- Behind the end of a chain, nothing is wrong. -/
private theorem findingAt?_of_length_le {position : Nat}
    (behind : (rule.chain chain).length ≤ position) :
    rule.findingAt? catalog chain position = none := by
  rw [findingAt?, List.getElem?_eq_none behind, Option.bind_none, ite_self]

/-- What is wrong with the places of a chain, position after position. -/
theorem placements_eq_filterMap :
    rule.placements catalog chain =
      (List.range (rule.chain chain).length).filterMap (rule.findingAt? catalog chain) := by
  have numbers : (rule.chain chain).zipIdx.map Prod.snd =
      List.range (rule.chain chain).length := by
    rw [List.zipIdx_map_snd, List.range_eq_range']
  unfold findingAt? placements
  split
  · simp
  · rw [← numbers, List.filterMap_map, placementFindings]
    apply List.filterMap_congr
    intro numbered member
    rw [Function.comp_apply, List.mem_zipIdx_iff_getElem?.mp member, Option.bind_some]

/-- What is out of place in a rule. -/
theorem filter_isSome_place? :
    (rule.findings catalog).filter (·.place?.isSome) =
      [Chain.filters, .modifiers].flatMap (rule.placements catalog) := by
  have drops {category : Finding.Category} (differs : category ≠ .terminal ∧ category ≠ .illegal)
      (finding : Finding) (same : finding.category = category) :
      finding.place?.isSome = false := by
    rw [← Bool.not_eq_true, Finding.isSome_place?_iff, same]
    exact not_or.mpr differs
  have orphans : rule.orphanFindings.filter (·.place?.isSome) = [] :=
    filter_eq_nil_of_category (fun _ => category_orphanFindings) (drops (by decide))
  have hidden : rule.hiddenFindings.filter (·.place?.isSome) = [] :=
    filter_eq_nil_of_category (fun _ => category_hiddenFindings) (drops (by decide))
  have places (chain : Chain) : (rule.placements catalog chain).filter (·.place?.isSome) =
      rule.placements catalog chain := by
    rw [List.filter_eq_self]
    exact fun finding member => Finding.isSome_place?_iff.mpr (category_placements member)
  rw [filter_findings (drops (by decide)), orphans, hidden, places, places]
  simp only [List.nil_append, List.flatMap_cons, List.flatMap_nil, List.append_nil]

/-- In a chain, every position is looked at once. -/
private theorem filter_placements (another : Chain) (position : Nat) :
    (rule.placements catalog another).filter (·.place? = some (chain, position)) =
      if another = chain then (rule.findingAt? catalog chain position).toList else [] := by
  by_cases same : another = chain
  · subst same
    have here (place : Nat) :
        (rule.findingAt? catalog another place).filter (·.place? = some (another, position)) =
          if decide (place = position) = true then rule.findingAt? catalog another place
          else none := by
      cases found : rule.findingAt? catalog another place with
      | none => simp
      | some finding => simp [Option.filter_some, place?_of_findingAt? found]
    have once : (List.range (rule.chain another).length).filter (· = position) =
        if position < (rule.chain another).length then [position] else [] := by
      rw [List.filter_eq, List.nodup_range.count]
      simp only [List.mem_range]
      split <;> rfl
    rw [if_pos rfl, placements_eq_filterMap, List.filter_filterMap, funext here,
      ← List.filterMap_filter, once]
    split
    next => rw [List.filterMap_eq_flatMap_toList, List.flatMap_singleton]
    next behind =>
      rw [findingAt?_of_length_le (Nat.le_of_not_lt behind)]
      rfl
  · rw [if_neg same, List.filter_eq_nil_iff, placements_eq_filterMap]
    intro finding member
    obtain ⟨place, _, found⟩ := List.mem_filterMap.mp member
    simp [place?_of_findingAt? found, same]

/-- What is found about a place is what is wrong with the tile there. -/
theorem filter_place?_eq (position : Nat) :
    (rule.findings catalog).filter (·.place? = some (chain, position)) =
      (rule.findingAt? catalog chain position).toList := by
  have somewhere (finding : Finding) : decide (finding.place? = some (chain, position)) =
      (decide (finding.place? = some (chain, position)) && finding.place?.isSome) := by
    cases finding.place? <;> simp
  calc (rule.findings catalog).filter (·.place? = some (chain, position))
      = ((rule.findings catalog).filter (·.place?.isSome)).filter
          (·.place? = some (chain, position)) := by
        rw [List.filter_filter]
        exact List.filter_congr fun finding _ => somewhere finding
    _ = (rule.findingAt? catalog chain position).toList := by
        rw [filter_isSome_place?, List.flatMap_cons, List.flatMap_cons, List.flatMap_nil,
          List.append_nil, List.filter_append, filter_placements, filter_placements]
        cases chain <;> simp

/-- The issues about a place are the one about the tile there. -/
theorem issuesAt_eq (page index : Int) (position : Nat) :
    rule.issuesAt catalog page index chain position =
      (rule.findingAt? catalog chain position).toList.map (·.toIssue page index) := by
  rw [issuesAt, filter_place?_eq]

/-- The issues about places are those in the audit that are about a place. -/
theorem filter_issues (page index : Int) :
    (rule.issues catalog page index).filter (·.category ∈
        [Finding.Category.terminal.label, Finding.Category.illegal.label]) =
      [Chain.filters, .modifiers].flatMap fun chain =>
        (List.range (rule.chain chain).length).flatMap
          (rule.issuesAt catalog page index chain) := by
  have labels (category : Finding.Category) :
      category.label ∈ [Finding.Category.terminal.label, Finding.Category.illegal.label] ↔
        category = .terminal ∨ category = .illegal := by
    cases category <;> decide
  have listed (finding : Finding) :
      decide ((finding.toIssue page index).category ∈
        [Finding.Category.terminal.label, Finding.Category.illegal.label]) =
      finding.place?.isSome := by
    rw [Bool.eq_iff_iff, decide_eq_true_iff, Finding.isSome_place?_iff]
    exact labels finding.category
  have places (chain : Chain) : rule.issuesAt catalog page index chain = fun position =>
      (rule.findingAt? catalog chain position).toList.map (·.toIssue page index) :=
    funext (issuesAt_eq page index)
  simp only [issues, List.filter_map, Function.comp_def, listed, filter_isSome_place?,
    placements_eq_filterMap, List.map_flatMap, List.filterMap_eq_flatMap_toList, places]

namespace AgreesUpTo

variable {other : Rule} {count : Nat}

private theorem findingAt? (agrees : rule.AgreesUpTo other chain count) (catalog : Catalog)
    {position : Nat} (within : position < count) :
    rule.findingAt? catalog chain position = other.findingAt? catalog chain position := by
  have judged := (agrees.mono (Nat.le_of_lt within)).placementFinding? catalog
  simp only [Rule.findingAt?, agrees.anchor?, agrees.getElem? within, judged]

/-- Of tiles that count in both rules, the audit reports the same. -/
theorem issuesAt (agrees : rule.AgreesUpTo other chain count) (catalog : Catalog)
    (page index : Int) {position : Nat} (within : position < count) :
    rule.issuesAt catalog page index chain position =
      other.issuesAt catalog page index chain position := by
  rw [issuesAt_eq, issuesAt_eq, agrees.findingAt? catalog within]

end AgreesUpTo

/-- Up to the position of a tile that is exchanged, a rule stays as it was. -/
theorem agreesUpTo_exchange (rule : Rule) (chain : Chain) (position : Nat) (tile : Tile) :
    (rule.exchange chain position tile).AgreesUpTo rule chain position where
  sensor := by cases chain <;> rfl
  actuator := by cases chain <;> exact fun _ => rfl
  earlier := by
    rw [exchange, chain_withChain, List.take_set_of_le (Nat.le_refl position)]

/-- A tile is in place where it is offered. -/
private theorem findingAt?_exchange (typed : catalog.WellTyped) {tile : Tile} {position : Nat}
    (within : position < (rule.chain chain).length)
    (offered : tile ∈ catalog.offered rule chain position) :
    (rule.exchange chain position tile).findingAt? catalog chain position = none := by
  obtain ⟨declared, _, visible⟩ := Catalog.mem_candidates.mp (Catalog.mem_offered.mp offered).2.1
  have inPlace : rule.placementFinding? catalog chain tile position = none :=
    (placementFinding?_eq_none_iff visible position).mpr
      ⟨tile, offered, Json.same_self_of_isString (typed tile declared).id⟩
  have judged := (rule.agreesUpTo_exchange chain position tile).placementFinding? catalog tile
  have present : ((rule.exchange chain position tile).chain chain)[position]? = some tile := by
    rw [exchange, chain_withChain, List.getElem?_set_self within]
  rw [findingAt?, present, Option.bind_some, judged, inPlace, ite_self]

end Rule

/-- Suggestions and verdicts are local, in every catalog. -/
theorem Catalog.judgesLocally (catalog : Catalog) : catalog.JudgesLocally where
  suggest _ _ _ _ agrees _ within := (agrees.mono within).suggest catalog
  audit _ _ _ _ agrees page index _ within := agrees.issuesAt catalog page index within
  exchange typed rule chain position within tiles suggested page index := by
    have offered : (catalog.suggest rule chain position).outcome =
        .ok (catalog.offered rule chain position) :=
      outcome_suggest (typed.isRankable chain.kind) ⟨by omega, by omega⟩
    obtain rfl := Except.ok.inj (offered.symm.trans suggested)
    intro tile member
    constructor
    · rw [Rule.issuesAt_eq, Rule.findingAt?_exchange typed within member]
      rfl
    · intro earlier before
      exact (rule.agreesUpTo_exchange chain position tile).issuesAt catalog page index before
  reported rule page index issues ended := by
    rw [Rule.eq_issues_of_outcome_audit ended, Rule.filter_issues]

namespace Builtin

/-- A rule that moves toward what it sees and, by an edit, away from it. -/
def wavering : Rule :=
  { chasing with
    condition := .high
    filters := []
    modifiers := [directionModifier ModifierId.toward "toward" 10,
      directionModifier ModifierId.away "away" 10] }

/-- Behind the first modifier, it is offered what the chase is. Its second modifier is illegal, and
is no longer when it is exchanged for what is suggested there. -/
theorem judgesLocally_wavering :
    chasing.AgreesUpTo wavering .modifiers 1 ∧
      catalog.suggest chasing .modifiers 1 = catalog.suggest wavering .modifiers 1 ∧
      chasing.issuesAt catalog 0 0 .modifiers 0 = wavering.issuesAt catalog 0 0 .modifiers 0 ∧
      wavering.issuesAt catalog 0 0 .modifiers 1 ≠ [] ∧
      (wavering.exchange .modifiers 1
        (speedModifier ModifierId.quickly "quickly" ModifierId.slowly)).issuesAt catalog 0 0
          .modifiers 1 = [] := by
  have typed : catalog.WellTyped := by decide +kernel
  have agrees : chasing.AgreesUpTo wavering .modifiers 1 :=
    ⟨by decide +kernel, fun _ => by decide +kernel, by decide +kernel⟩
  have within : 1 < (wavering.chain .modifiers).length := by decide +kernel
  have member : speedModifier ModifierId.quickly "quickly" ModifierId.slowly ∈
      catalog.offered wavering .modifiers 1 := by decide +kernel
  have suggested : (catalog.suggest wavering .modifiers 1).outcome =
      .ok (catalog.offered wavering .modifiers 1) :=
    Catalog.outcome_suggest (typed.isRankable _) ⟨by omega, by omega⟩
  have locally := catalog.judgesLocally
  refine ⟨agrees, locally.suggest _ _ _ 1 agrees 1 (Nat.le_refl 1),
    locally.audit _ _ _ 1 agrees 0 0 0 Nat.one_pos, by decide +kernel, ?_⟩
  exact (locally.exchange typed _ _ 1 within _ suggested 0 0 _ member).1

end Builtin

end TileBrain
