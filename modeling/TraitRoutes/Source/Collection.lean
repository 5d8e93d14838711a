import TraitRoutes.Source.Declaration
import TraitRoutes.Source.Namespace

/-!
# Collecting declarations

What a source file contributes: its traits, those of inline modules included,
and the names that it makes known. An import makes its final name known, or the
new name given to it; a supertrait is known by itself if it is written with a
path. A file with a glob import may import any of the supertraits it mentions.
-/

namespace TraitRoutes

/-- What was collected from a file. -/
structure Collection where
  declarations : List Declaration := []
  /-- Names imported, and last segments of supertraits written as paths. -/
  known : List String := []
  /-- Names of all supertraits. -/
  mentioned : List String := []
  /-- Some import ends in a glob. -/
  glob : Bool := false

namespace Collection

/-- Two collections, one after the other. -/
def append (a b : Collection) : Collection :=
  ⟨a.declarations ++ b.declarations, a.known ++ b.known, a.mentioned ++ b.mentioned,
    a.glob || b.glob⟩

/-- The names that the file makes known. -/
def knownNames (c : Collection) : List String :=
  c.known ++ if c.glob then c.mentioned else []

mutual

/-- What an import contributes. -/
def ofUse : UseTree → Collection
  | .path _ tree => ofUse tree
  | .name i => { known := [i.text] }
  | .rename _ i => { known := [i.text] }
  | .glob => { glob := true }
  | .group trees => ofUses trees

/-- What the imports of a group contribute. -/
def ofUses : List UseTree → Collection
  | [] => {}
  | tree :: rest => (ofUse tree).append (ofUses rest)

end

/-- The path of a bound that is a trait. -/
def supertraitPath? : Bound → Option Path
  | .interface _ _ _ path => some path
  | _ => none

/-- The paths of the supertraits that have a name, each with its last name. -/
def supertraitsOf (t : TraitDecl) : List (Path × String) :=
  (t.supertraits.filterMap supertraitPath?).filterMap fun p =>
    p.last?.map fun segment => (p, segment.ident.text)

/-- The declaration of a trait. -/
def declarationOf (file space : String) (t : TraitDecl) : Declaration :=
  { ident := t.ident, space, attrs := t.attrs, generics := t.generics
    supertraits := (supertraitsOf t).map (·.2), methods := t.methods
    location := ⟨file, t.place.line, t.place.column⟩ }

/-- What a trait contributes. -/
def ofTrait (file space : String) (t : TraitDecl) : Collection :=
  let supers := supertraitsOf t
  { declarations := [declarationOf file space t]
    known := (supers.filter fun s => 1 < s.1.segments.length).map (·.2)
    mentioned := supers.map (·.2) }

mutual

/-- What an item contributes in the given module. -/
def ofItem (file space : String) : Item → Collection
  | .interface t => ofTrait file space t
  | .module name items => ofItems file (Namespace.nested space name.text) items
  | .imports tree => ofUse tree
  | .other => {}

/-- What the items of a module contribute. -/
def ofItems (file space : String) : List Item → Collection
  | [] => {}
  | item :: rest => (ofItem file space item).append (ofItems file space rest)

end

end Collection

end TraitRoutes
