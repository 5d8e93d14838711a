/-!
# Similar names

How alike two names are, after Jaro and Winkler: the share of characters that the
names have in common at nearly the same places, less the pairs out of order, plus
a bonus for a common beginning. The measure is a binary floating point number, and
names whose measures come out equal are equally alike.
-/

namespace TraitRoutes.Text

/-- Marks the first unmarked place between `low` and `high` where `c` stands. -/
def markMatch (c : Char) (low high : Nat) : Nat → List (Char × Bool) → Option (List (Char × Bool))
  | _, [] => none
  | j, (d, marked) :: rest =>
    if high ≤ j then none
    else if low ≤ j && c == d && !marked then some ((d, true) :: rest)
    else (markMatch c low high (j + 1) rest).map ((d, marked) :: ·)

/-- The characters of the first name that meet a partner, in order, and the second
name with the partners marked. -/
def matchUp (range : Nat) : Nat → List Char → List (Char × Bool) → List Char × List (Char × Bool)
  | _, [], b => ([], b)
  | i, c :: rest, b =>
    match markMatch c (i - range) (i + range + 1) 0 b with
    | some marked =>
      let (met, final) := matchUp range (i + 1) rest marked
      (c :: met, final)
    | none => matchUp range (i + 1) rest b

/-- The Jaro similarity of two names. -/
def jaro (a b : List Char) : Float :=
  if a.isEmpty && b.isEmpty then 1
  else
    let range := max a.length b.length / 2 - 1
    let (met, marked) := matchUp range 0 a (b.map (·, false))
    let partners := (marked.filter (·.2)).map (·.1)
    let m := met.length
    let swapped := ((met.zip partners).filter fun p => p.1 != p.2).length / 2
    if m = 0 then 0
    else
      (m.toFloat / a.length.toFloat + m.toFloat / b.length.toFloat
        + (m - swapped).toFloat / m.toFloat) / 3

/-- The number of characters that two names begin with in common. -/
def commonStart : List Char → List Char → Nat
  | c :: a, d :: b => if c == d then commonStart a b + 1 else 0
  | _, _ => 0

/-- The similarity of two names. -/
def similarity (a b : String) : Float :=
  let sim := jaro a.toList b.toList
  if sim > 0.7 then sim + 0.1 * (min 4 (commonStart a.toList b.toList)).toFloat * (1 - sim)
  else sim

/-- The later of two candidates, if it is more similar. -/
def moreSimilar (best : Option (String × Float)) (e : String × Float) : Option (String × Float) :=
  match best with
  | some (_, s) => if e.2 > s then some e else best
  | none => some e

/-- The name most like the given one, if any is like it at all; the first of several
that are equally like it. -/
def mostSimilar? (name : String) (known : List String) : Option String :=
  let close := (known.map fun k => (k, similarity name k)).filter fun e => e.2 > 0.8
  (close.foldl moreSimilar none).map (·.1)

end TraitRoutes.Text
