import TileBrain.Catalog.Basic
import TileBrain.Tile.Definition

/-! # The keyed layout of catalogs

A catalog is written with its tiles grouped by kind. It is read from a plain list of definitions;
the first fault in that list counts, be it in a definition or in the identifier of its tile.

The keyed layout is for reading elsewhere; nothing here reads it back.
-/

namespace TileBrain

inductive CatalogFault where
  | tile (fault : TileFault)
  | entry (fault : EntryFault)

namespace Catalog

/-- The tiles up to the first definition that is at fault, and its fault. -/
def readTiles : List Json → List Tile × Option TileFault
  | [] => ([], none)
  | json :: rest =>
    match Tile.ofJson json with
    | .error fault => ([], some fault)
    | .ok tile =>
      let (tiles, fault) := readTiles rest
      (tile :: tiles, fault)

def ofJson (definitions : List Json) : Except CatalogFault Catalog :=
  let (tiles, fault) := readTiles definitions
  match ofTiles tiles, fault with
  | .error fault, _ => .error (.entry fault)
  | .ok _, some fault => .error (.tile fault)
  | .ok catalog, none => .ok catalog

def toJson (catalog : Catalog) : Json :=
  .obj (TileKind.all.map fun kind =>
    (kind.label ++ "s", .arr ((catalog.partition kind).map Tile.toJson)))

end Catalog

end TileBrain
