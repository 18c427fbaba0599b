import Recolor.Config.Scatter
import Recolor.Yaml.Object

/-!
# Objects as values

Values hold their parts, while objects name theirs. An object is unfolded into a value by
putting parts in the places of their names. Where a collection holds itself this would not
end; there the value says so instead.

What a collection is inside of depends on where one starts. The settings of a document are
two mappings deep, and each is looked at on its own, so unfolding starts anew below two
levels: only a collection inside a setting counts as inside itself.

Objects that are named many times are unfolded once.
-/

set_option autoImplicit false

namespace Recolor.Yaml

/-- The values of objects that do not hold themselves, as far as they are known. -/
abbrev Known : Type := Array (Option Value)

/-- What unfolding an object gives: its value, whether something in it holds itself, and what
is known now. -/
structure Unfolded where
  value : Value
  isKnotted : Bool
  known : Known
  deriving Inhabited

namespace Making

/-- Unfolds several objects. -/
def unfoldAll (unfold : Known → NodeId → Unfolded) (known : Known) :
    List NodeId → List Value × Bool × Known
  | [] => ([], false, known)
  | id :: rest =>
    let u := unfold known id
    let (values, isKnotted, known) := unfoldAll unfold u.known rest
    (u.value :: values, u.isKnotted || isKnotted, known)

/-- Unfolds an object that is inside others. Unfolding starts anew as many levels deep as
given. -/
def unfold (m : Making) :
    (room : Nat) → (levels : Nat) → (inside : List NodeId) → Known → NodeId → Unfolded
  | 0, _, _, known, _ => { value := .null, isKnotted := true, known }
  | room + 1, levels, inside, known, id =>
    let collection (isMap : Bool) (parts : List NodeId) (build : List Value → Value) : Unfolded :=
      if inside.contains id then { value := .again isMap, isKnotted := true, known }
      else
        let inside := if levels = 0 then id :: inside else []
        let (values, isKnotted, known) := unfoldAll (m.unfold room (levels - 1) inside) known parts
        let value := build values
        { value, isKnotted
          known := if levels = 0 && !isKnotted then known.setIfInBounds id (some value) else known }
    match if levels = 0 then (known[id]?).join else none with
    | some value => { value, isKnotted := false, known }
    | none =>
      let leaf (id : NodeId) : Value := (m.leaf? id).getD .null
      match m.object? id with
      | none => { value := .null, isKnotted := false, known }
      | some (.leaf value) => { value, isKnotted := false, known }
      | some (.set keys) =>
        { value := .set (Scatter.order (keys.map leaf)), isKnotted := false, known }
      | some (.list items) => collection false items .list
      | some (.pairs items) =>
        collection false (items.flatMap fun (k, v) => [k, v]) fun values =>
          .list ((pairsOf values).map fun (k, v) => .tuple [k, v])
      | some (.map entries) =>
        collection true (entries.map (·.2)) fun values =>
          .map ((entries.map fun (k, _) => leaf k).zip values)
where
  /-- Values two by two. -/
  pairsOf : List Value → List (Value × Value)
    | a :: b :: rest => (a, b) :: pairsOf rest
    | _ => []

/-- The value of an object. -/
def value (m : Making) (id : NodeId) : Value :=
  (m.unfold (m.objects.size + 4) 2 [] (Array.replicate m.objects.size none) id).value

end Making

end Recolor.Yaml
