import Mathlib.Tactic.SplitIfs
import TileBrain.Proofs.Decoding
import TileBrain.Proofs.Storage.Tree
import TileBrain.Storage.Brain

/-! # Stored brains come back

A brain is stored as the octets of its text. The reader of octets is a machine that takes one at a
time, so `Text.readUtf8_encodeChar` follows it through a character: its first octet says how many
are missing and what the next one may be, and each of those adds six bits.
`Text.decodeUtf8_octetsOf` is about whole texts, with any characters.

`FileTree.loadBrain_saveAll` says that a brain that was saved is loaded again, also after others
were saved, unless one of them took its place. Line ends do not matter to it, since a brain's text
has no carriage return.
-/

namespace TileBrain

namespace Text

/-- The octets inside a character, each of which carries the last six bits of a code. -/
def innerOctets (codes : List Nat) : List UInt8 :=
  codes.map fun code => UInt8.ofNat (code % 64 + 0x80)

/-- The bits so far, with those of the octets inside a character behind them. -/
def joinBits (bits : Nat) (codes : List Nat) : Nat :=
  codes.foldl (fun bits code => bits * 64 + code % 64) bits

private theorem toNat_octet {n : Nat} (small : n < 256) : (UInt8.ofNat n).toNat = n :=
  UInt8.toNat_ofNat_of_lt small

/-- An octet inside a character adds to the bits so far. -/
private theorem readUtf8_innerOctet {pending : Utf8Pending} {code : Nat}
    (within : pending.low ≤ code % 64 + 0x80 ∧ code % 64 + 0x80 ≤ pending.high) (position : Nat)
    (rest : List UInt8) :
    readUtf8 position (some pending) (UInt8.ofNat (code % 64 + 0x80) :: rest) =
      if pending.missing ≤ 1 then
        (readUtf8 (position + 1) none rest).map (Char.ofNat (pending.bits * 64 + code % 64) :: ·)
      else
        readUtf8 (position + 1)
          (some { pending with
            bits := pending.bits * 64 + code % 64
            missing := pending.missing - 1
            low := 0x80
            high := 0xbf })
          rest := by
  have octet : (UInt8.ofNat (code % 64 + 0x80)).toNat = code % 64 + 0x80 := toNat_octet (by omega)
  have inBounds : ¬ (code % 64 + 0x80 < pending.low ∨ pending.high < code % 64 + 0x80) := by omega
  rw [readUtf8]
  simp only [octet, inBounds, if_false, Nat.add_sub_cancel]

/-- Inside a character, the reader takes as many octets as are missing. The bounds of the pending
character are those of the first one alone. -/
private theorem readUtf8_innerOctets {pending : Utf8Pending} {code : Nat} {codes : List Nat}
    (missing : pending.missing = codes.length + 1)
    (within : pending.low ≤ code % 64 + 0x80 ∧ code % 64 + 0x80 ≤ pending.high) (position : Nat)
    (rest : List UInt8) :
    readUtf8 position (some pending) (innerOctets (code :: codes) ++ rest) =
      (readUtf8 (position + (codes.length + 1)) none rest).map
        (Char.ofNat (joinBits pending.bits (code :: codes)) :: ·) := by
  induction codes generalizing pending code position with
  | nil =>
    have last : pending.missing ≤ 1 := Nat.le_of_eq missing
    change readUtf8 position (some pending) (UInt8.ofNat (code % 64 + 0x80) :: rest) = _
    rw [readUtf8_innerOctet within, if_pos last]
    rfl
  | cons next more ih =>
    have nextWithin : 0x80 ≤ next % 64 + 0x80 ∧ next % 64 + 0x80 ≤ 0xbf := by omega
    have several : ¬ pending.missing ≤ 1 := by
      rw [missing, List.length_cons]
      omega
    have moved : position + 1 + (more.length + 1) = position + ((next :: more).length + 1) := by
      rw [List.length_cons]
      omega
    change readUtf8 position (some pending)
      (UInt8.ofNat (code % 64 + 0x80) :: (innerOctets (next :: more) ++ rest)) = _
    rw [readUtf8_innerOctet within, if_neg several, ih (congrArg (· - 1) missing) nextWithin, moved]
    rfl

section Openings

variable {first : UInt8} {top next : Nat} (position : Nat)

/-- The first octet announces a character of so many more, with its own bits at the top. The next
octet is within the bounds for it. -/
def Opens (first : UInt8) (position top missing next : Nat) : Prop :=
  ∃ low high,
    Utf8Pending.ofFirst? first position = some ⟨first, position, top, missing, low, high⟩ ∧
      low ≤ next % 64 + 0x80 ∧ next % 64 + 0x80 ≤ high

private theorem opens_two (octet : first.toNat = top + 192) (proper : 2 ≤ top) (small : top < 32) :
    Opens first position top 1 next := by
  refine ⟨0x80, 0xbf, ?_, by omega, by omega⟩
  simp only [Utf8Pending.ofFirst?, octet]
  rw [if_pos (by omega), Nat.add_sub_cancel]

/-- What follows the first octet of three is bounded so that the character needs that many, and is
not half of a pair. -/
private theorem opens_three (octet : first.toNat = top + 224) (small : top < 16)
    (needed : top = 0 → 32 ≤ next % 64) (whole : top = 13 → next % 64 < 32) :
    Opens first position top 2 next := by
  rcases (by omega : top = 0 ∨ top = 13 ∨ 0 < top ∧ top ≠ 13) with rfl | rfl | ⟨more, other⟩
  · have longer := needed rfl
    exact ⟨0xa0, 0xbf, by simp [Utf8Pending.ofFirst?, octet], by omega, by omega⟩
  · have shorter := whole rfl
    exact ⟨0x80, 0x9f, by simp [Utf8Pending.ofFirst?, octet], by omega, by omega⟩
  · refine ⟨0x80, 0xbf, ?_, by omega, by omega⟩
    simp only [Utf8Pending.ofFirst?, octet]
    rw [if_neg (by omega), if_neg (by omega), if_neg (by omega), if_pos (by omega),
      Nat.add_sub_cancel]

/-- A character of four octets needs that many, and is not past the last code point. -/
private theorem opens_four (octet : first.toNat = top + 240) (small : top < 5)
    (needed : top = 0 → 16 ≤ next % 64) (known : top = 4 → next % 64 < 16) :
    Opens first position top 3 next := by
  rcases (by omega : top = 0 ∨ top = 4 ∨ 0 < top ∧ top < 4) with rfl | rfl | ⟨more, fewer⟩
  · have longer := needed rfl
    exact ⟨0x90, 0xbf, by simp [Utf8Pending.ofFirst?, octet], by omega, by omega⟩
  · have shorter := known rfl
    exact ⟨0x80, 0x8f, by simp [Utf8Pending.ofFirst?, octet], by omega, by omega⟩
  · refine ⟨0x80, 0xbf, ?_, by omega, by omega⟩
    simp only [Utf8Pending.ofFirst?, octet]
    rw [if_neg (by omega), if_neg (by omega), if_neg (by omega), if_neg (by omega),
      if_neg (by omega), if_pos (by omega), Nat.add_sub_cancel]

end Openings

/-- A first octet that opens a character is followed by the octets that it announces. -/
private theorem readUtf8_opening {first : UInt8} {position top code : Nat} {codes : List Nat}
    {c : Char} (beyond : ¬ first.toNat < 0x80)
    (opens : Opens first position top (codes.length + 1) code)
    (spelled : Char.ofNat (joinBits top (code :: codes)) = c) (rest : List UInt8) :
    readUtf8 position none (first :: (innerOctets (code :: codes) ++ rest)) =
      (readUtf8 (position + (codes.length + 2)) none rest).map (c :: ·) := by
  obtain ⟨low, high, isFirst, within⟩ := opens
  have moved : position + 1 + (codes.length + 1) = position + (codes.length + 2) := by omega
  rw [readUtf8, if_neg beyond, isFirst]
  dsimp only
  rw [readUtf8_innerOctets rfl within, spelled, moved]

/-- The octets of a character, those behind its first one set apart. -/
private theorem encodeChar_eq (c : Char) :
    String.utf8EncodeChar c =
      if c.toNat ≤ 127 then [UInt8.ofNat c.toNat]
      else if c.toNat ≤ 2047 then
        UInt8.ofNat (c.toNat / 64 % 32 + 192) :: innerOctets [c.toNat]
      else if c.toNat ≤ 65535 then
        UInt8.ofNat (c.toNat / 4096 % 16 + 224) :: innerOctets [c.toNat / 64, c.toNat]
      else
        UInt8.ofNat (c.toNat / 262144 % 8 + 240) ::
          innerOctets [c.toNat / 4096, c.toNat / 64, c.toNat] := rfl

/-- The octets of a character are read as that character. -/
theorem readUtf8_encodeChar (c : Char) (position : Nat) (rest : List UInt8) :
    readUtf8 position none (String.utf8EncodeChar c ++ rest) =
      (readUtf8 (position + (String.utf8EncodeChar c).length) none rest).map (c :: ·) := by
  have bounds := toNat_bounds c
  have isChar {code : Nat} (same : code = c.toNat) : Char.ofNat code = c := by
    rw [same, Char.ofNat_toNat]
  rw [encodeChar_eq]
  generalize c.toNat = code at bounds isChar
  split_ifs with one two three
  · have octet : (UInt8.ofNat code).toNat = code := toNat_octet (by omega)
    rw [List.singleton_append, readUtf8, octet, if_pos (by omega), isChar rfl]
    rfl
  · have octet : (UInt8.ofNat (code / 64 % 32 + 192)).toNat = code / 64 + 192 := by
      rw [toNat_octet (by omega), Nat.mod_eq_of_lt (by omega)]
    have spelled : joinBits (code / 64) [code] = code := Nat.div_add_mod' code 64
    have opens : Opens _ position (code / 64) 1 code :=
      opens_two position octet (by omega) (by omega)
    exact readUtf8_opening (by omega) opens (isChar spelled) rest
  · have octet : (UInt8.ofNat (code / 4096 % 16 + 224)).toNat = code / 4096 + 224 := by
      rw [toNat_octet (by omega), Nat.mod_eq_of_lt (by omega)]
    have spelled : joinBits (code / 4096) [code / 64, code] = code := by
      simp only [joinBits, List.foldl_cons, List.foldl_nil]
      omega
    have opens : Opens _ position (code / 4096) 2 (code / 64) :=
      opens_three position octet (by omega) (by omega) (by omega)
    exact readUtf8_opening (by omega) opens (isChar spelled) rest
  · have octet : (UInt8.ofNat (code / 262144 % 8 + 240)).toNat = code / 262144 + 240 := by
      rw [toNat_octet (by omega), Nat.mod_eq_of_lt (by omega)]
    have spelled : joinBits (code / 262144) [code / 4096, code / 64, code] = code := by
      simp only [joinBits, List.foldl_cons, List.foldl_nil]
      omega
    have opens : Opens _ position (code / 262144) 3 (code / 4096) :=
      opens_four position octet (by omega) (by omega) (by omega)
    exact readUtf8_opening (by omega) opens (isChar spelled) rest

/-- The octets of characters are read as these characters. -/
theorem readUtf8_encode (text : List Char) (position : Nat) :
    readUtf8 position none (text.flatMap String.utf8EncodeChar) = .ok text := by
  induction text generalizing position with
  | nil => rfl
  | cons c rest ih =>
    rw [List.flatMap_cons, readUtf8_encodeChar, ih]
    rfl

theorem octetsOf_eq (text : String) :
    octetsOf text = text.toList.flatMap String.utf8EncodeChar := by
  obtain ⟨characters, rfl⟩ : ∃ characters, text = String.ofList characters :=
    ⟨text.toList, String.ofList_toList.symm⟩
  rw [octetsOf, String.toUTF8, String.toByteArray_ofList, List.utf8Encode,
    List.toList_data_toByteArray, String.toList_ofList]

/-- A text comes back from its octets. -/
theorem decodeUtf8_octetsOf (text : String) : decodeUtf8 (octetsOf text) = .ok text := by
  rw [decodeUtf8, octetsOf_eq, readUtf8_encode]
  exact congrArg Except.ok String.ofList_toList

/-- Without a carriage return, no line end changes. -/
theorem unifyLineEnds_eq_self {text : List Char} (plain : '\r' ∉ text) :
    unifyLineEnds text = text := by
  induction text with
  | nil => rfl
  | cons c rest ih =>
    obtain ⟨other, others⟩ := not_or.mp (mt List.mem_cons.mpr plain)
    unfold unifyLineEnds
    split
    next same => exact absurd (List.cons.inj same).1.symm other
    next same => exact absurd (List.cons.inj same).1.symm other
    next same =>
      cases same
      rw [ih others]
    next same => exact nomatch same

end Text

section Stored

variable {catalog : Catalog} {brain : Brain}

/-- No line of a brain's text ends with a carriage return. -/
private theorem Brain.return_not_mem_render (texts : catalog.HasTextIds)
    (taken : brain.TakenFrom catalog) (indent : Option Int) :
    '\r' ∉ (brain.render indent).toList := by
  intro member
  rcases Json.uses_of_mem_render (Brain.restorable_toJson texts taken) member with
    (graphic | lineFeed) | comma | colon
  · exact nomatch graphic
  · exact absurd lineFeed (by decide)
  · have only : (BrainRecord.layout indent).comma = [','] := by cases indent <;> rfl
    exact absurd (only ▸ comma) (by decide)
  · cases indent with
    | none => exact absurd (show '\r' ∈ [':'] from colon) (by decide)
    | some spaces => exact absurd (show '\r' ∈ [':', ' '] from colon) (by decide)

/-- A brain comes back from the octets of its text. -/
theorem Brain.outcome_decodeOctets (texts : catalog.HasTextIds) (taken : brain.TakenFrom catalog)
    (indent : Option Int) :
    ((DecodeOptions.mk catalog .strict .raise).decodeOctets
      (octetsOf (brain.render indent))).outcome = .ok brain := by
  have read : textOf (octetsOf (brain.render indent)) = .ok (brain.render indent) := by
    rw [textOf, Text.decodeUtf8_octetsOf]
    rfl
  rw [DecodeOptions.decodeOctets, read, Reported.outcome_bind_of_ok rfl,
    Text.unifyLineEnds_eq_self (Brain.return_not_mem_render texts taken indent),
    String.ofList_toList]
  exact Reported.outcome_mapError_of_ok (Brain.outcome_decodeText_render texts taken indent) _

end Stored

namespace FileTree

/-- A brain, and where and how to save it. -/
structure Save where
  path : RelativePath
  brain : Brain
  indent : Option Int

/-- Saves a brain; what is answered is the place of the file. -/
def save (tree : FileTree) (request : Save) : FileTree × Reported StorageError Place :=
  tree.saveBrain request.path request.brain request.indent

/-- The tree after saving one after another, also where some cannot be saved. -/
def saveAll (tree : FileTree) (saves : List Save) : FileTree :=
  saves.foldl (fun tree request => (tree.save request).1) tree

variable {tree : FileTree} {path : RelativePath} {place : Place}

/-- Saving changes no file but the one whose place it answers. -/
theorem keeps_save (tree : FileTree) (request : Save) :
    tree.Keeps (tree.save request).1 (tree.save request).2.outcome.toOption := by
  have keeps := tree.keeps_write request.path (octetsOf (request.brain.render request.indent))
  rw [FileTree.save, saveBrain]
  split
  next wrote =>
    rw [wrote] at keeps
    exact keeps
  next wrote =>
    rw [wrote] at keeps
    exact keeps

/-- The path leads to the octets of the text. -/
theorem resolve_save {request : Save} (saved : (tree.save request).2.outcome = .ok place) :
    (tree.save request).1.resolve request.path =
      .ok (place, .file (octetsOf (request.brain.render request.indent))) := by
  rw [FileTree.save, saveBrain] at saved ⊢
  split at saved
  next wrote =>
    obtain rfl := Except.ok.inj saved
    dsimp only
    exact resolve_write wrote
  next => exact nomatch saved

/-- A path that leads to the octets of a brain's text leads to the brain. -/
theorem outcome_loadBrain {catalog : Catalog} (texts : catalog.HasTextIds) {brain : Brain}
    (taken : brain.TakenFrom catalog) {indent : Option Int}
    (leads : tree.resolve path = .ok (place, .file (octetsOf (brain.render indent)))) :
    (tree.loadBrain path ⟨catalog, .strict, .raise⟩).outcome = .ok brain := by
  rw [loadBrain, read_of_resolve leads]
  dsimp only
  rw [Reported.outcome_bind_of_ok (Brain.outcome_decodeOctets texts taken indent)]
  rfl

/-- A file stays as it is while others are saved. -/
theorem resolve_saveAll {octets : List UInt8} {saves : List Save}
    (leads : tree.resolve path = .ok (place, .file octets))
    (elsewhere : ∀ before request, before ++ [request] <+: saves →
      ((tree.saveAll before).save request).2.outcome ≠ .ok place) :
    (tree.saveAll saves).resolve path = .ok (place, .file octets) := by
  induction saves generalizing tree with
  | nil => exact leads
  | cons request rest ih =>
    have first := elsewhere [] request ⟨rest, rfl⟩
    have apart : (tree.save request).2.outcome.toOption ≠ some place := by
      cases answered : (tree.save request).2.outcome with
      | error => exact nofun
      | ok other =>
        intro same
        exact first (answered.trans (congrArg Except.ok (Option.some.inj same)))
    apply ih ((tree.keeps_save request).resolve leads apart)
    intro before other isPart
    exact elsewhere (request :: before) other (List.prefix_cons_inj request |>.mpr isPart)

/-- A brain that was saved is loaded again, also after other saves, as long as none of them took the
place of its file. -/
theorem loadBrain_saveAll {catalog : Catalog} (texts : catalog.HasTextIds) {request : Save}
    (taken : request.brain.TakenFrom catalog) (saved : (tree.save request).2.outcome = .ok place)
    {saves : List Save}
    (elsewhere : ∀ before other, before ++ [other] <+: saves →
      (((tree.save request).1.saveAll before).save other).2.outcome ≠ .ok place) :
    (((tree.save request).1.saveAll saves).loadBrain request.path
      ⟨catalog, .strict, .raise⟩).outcome = .ok request.brain :=
  outcome_loadBrain texts taken (resolve_saveAll (resolve_save saved) elsewhere)

end FileTree

end TileBrain
