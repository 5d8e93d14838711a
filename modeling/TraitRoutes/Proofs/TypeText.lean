import TraitRoutes.Layout.Trees
import TraitRoutes.Proofs.DocumentText

/-!
# The text of a type

A type is written with the syntax it has, whatever its layout is: a mutual recursion over types,
paths, arguments and bounds, as the layout is one. Where the tree keeps a fragment, such as the
length of an array or a function pointer, its text is what it is laid out as. Lifetimes stand
first among the generic arguments, wherever the source has them.
-/

namespace TraitRoutes

open Layout
open Layout.Doc (commaList enclosed items written zero)

/-! ## Syntax -/

/-- Elements with something between them. -/
def separated (between : Language Char) : List (Language Char) → Language Char
  | [] => 1
  | [last] => last
  | first :: rest => first * between * separated between rest

/-- A text that may be left out. -/
def litIf (condition : Bool) (s : String) : Language Char := if condition then lit s else 1

/-- The element of a tuple of one has a comma behind it. -/
def tupleCode : List (Language Char) → Language Char
  | [only] => lit "(" * gap * only * lit "," * gap * lit ")"
  | elems => enclosed "(" ")" elems

/-- Arguments between angle brackets, marked if they are lifetimes. -/
def anglesCode (args : List (Bool × Language Char)) : Language Char :=
  let ordered := args.filter (·.1) ++ args.filter (!·.1)
  if ordered.isEmpty then 1 else enclosed "<" ">" (ordered.map (·.2))

/-- What is kept as it was read. -/
def Fragment.code (f : Fragment) : Language Char := written (ofFragment f).plain

/-- A constant as an argument stands in braces unless it is a literal, a path or a block. -/
def Fragment.constCode (f : Fragment) : Language Char :=
  match f.exprForm? with
  | some (.literal _) | some .path | some (.block (.plain _)) => f.code
  | _ => lit "\x7b" * f.code * lit "\x7d"

/-- The bounds of an associated type. -/
def constraintCode (bounds : List (Language Char)) : Language Char :=
  if bounds.isEmpty then 1 else lit ": " * separated (gap * lit "+ ") bounds

mutual

def Ty.code : Ty → Language Char
  | .path p => p.code
  | .qualified self n (.mk leading segments) =>
    lit "<" * self.code * lit (if n = 0 then ">" else " as ")
      * Segment.codes n (n = 0 || leading) segments
  | .tuple elems _ => tupleCode (Ty.codes elems)
  | .array elem len => lit "[" * elem.code * lit "; " * len.code * lit "]"
  | .slice elem => lit "[" * elem.code * lit "]"
  | .pointer mutable elem => lit (if mutable then "*mut " else "*const ") * elem.code
  | .reference lifetime mutable elem =>
    lit "&" * (match lifetime with
      | some l => lit ("'" ++ l.text ++ " ")
      | none => 1) * litIf mutable "mut " * elem.code
  | .implTrait bounds _ => lit "impl " * separated (lit " + ") (Bound.codes bounds)
  | .traitObject _ bounds _ => lit "dyn " * separated (lit " + ") (Bound.codes bounds)
  | .paren elem => lit "(" * elem.code * lit ")"
  | .never => lit "!"
  | .infer => lit "_"
  | .other fragment => fragment.code

def Ty.codes : List Ty → List (Language Char)
  | [] => []
  | ty :: rest => ty.code :: Ty.codes rest

def Path.code : Path → Language Char
  | .mk leading segments => Segment.codes 0 leading segments

/-- Segments behind a `::` or not. The first `close` of them end with the trait of a qualified
path. -/
def Segment.codes (close : Nat) (between : Bool) : List Segment → Language Char
  | [] => 1
  | .mk ident args :: rest =>
    litIf between "::" * lit ident.text * args.code * litIf (close = 1) ">"
      * Segment.codes (close - 1) true rest

def GenericArgs.code : GenericArgs → Language Char
  | .none => 1
  | .angle _ args _ => anglesCode ((args.map isLifetimeArg).zip (GenericArg.codes args))
  | .paren inputs _ output =>
    enclosed "(" ")" (Ty.codes inputs) * (match output with
      | some ty => lit " -> " * ty.code
      | none => 1)

def GenericArg.codes : List GenericArg → List (Language Char)
  | [] => []
  | a :: rest => a.code :: GenericArg.codes rest

def GenericArg.code : GenericArg → Language Char
  | .lifetime name => lit ("'" ++ name.text)
  | .type ty => ty.code
  | .const value => value.constCode
  | .assocType name args ty => lit name.text * args.code * lit " = " * ty.code
  | .assocConst name args value => lit name.text * args.code * lit " = " * value.code
  | .constraint name args bounds _ =>
    lit name.text * args.code * constraintCode (Bound.codes bounds)

def Bound.code : Bound → Language Char
  | .interface paren relaxed binder path =>
    litIf paren "(" * (match binder with
      | some b => b.code
      | none => 1) * litIf relaxed "?" * path.code * litIf paren ")"
  | .lifetime name => lit ("'" ++ name.text)
  | .other fragment => fragment.code

def Bound.codes : List Bound → List (Language Char)
  | [] => []
  | b :: rest => b.code :: Bound.codes rest

end

/-! ## Layout -/

namespace Layout

section Forms

variable {docs : List (List Doc)} {Ls : List (Language Char)}

theorem written_joined {between : List Doc} {B : Language Char} (hbetween : written between ≤ B)
    (h : List.Forall₂ (fun d L => written d ≤ L) docs Ls) :
    written (Doc.joined between docs) ≤ separated B Ls := by
  induction h with
  | nil => exact le_rfl
  | cons hd hrest ih =>
      cases hrest with
      | nil => exact hd
      | cons hd' hrest' =>
          rw [Doc.joined, Doc.written_append, Doc.written_append, separated]
          · exact mul_le_mul' (mul_le_mul' hd hbetween) ih
          · exact nofun
          · exact nofun

theorem written_wordIf (condition : Bool) (s : String) :
    written (wordIf condition s) = litIf condition s := by
  cases condition
  · rfl
  · exact Doc.written_singleton s

theorem written_tuple : List.Forall₂ (fun d L => written d ≤ L) docs Ls →
    written (match docs with
      | [only] => [.text "(", Doc.cbox step (zero :: only ++ [.text ",", Doc.zeroBack]), .text ")"]
      | docs => [.text "(", Doc.cbox step (zero :: commaList docs), .text ")"]) ≤ tupleCode Ls := by
  intro h
  have hitems : ∀ (docs : List (List Doc)) (Ls : List (Language Char)),
      List.Forall₂ (fun d L => written d ≤ L) docs Ls →
      written [.text "(", Doc.cbox step (zero :: commaList docs), .text ")"]
        ≤ enclosed "(" ")" Ls := by
    intro docs Ls h
    rw [Doc.written_text, Doc.written_cons, Doc.written_singleton, enclosed, ← mul_assoc,
      mul_assoc _ gap]
    exact mul_le_mul_left (mul_le_mul_right (Doc.written_items h) _) _
  rcases h with _ | ⟨hd, _ | ⟨hd', hrest⟩⟩
  · exact hitems _ _ .nil
  · rw [Doc.written_text, Doc.written_cons, Doc.written_singleton, List.cons_append]
    refine (mul_le_mul_right (mul_le_mul_left Doc.written_group_zero _) _).trans ?_
    rw [Doc.written_append, Doc.written_text, Doc.written_zeroBack, Doc.written_nil, mul_one,
      tupleCode]
    simp only [mul_assoc]
    gcongr
  · exact hitems _ _ (.cons hd (.cons hd' hrest))

/-- Marks are kept beside what they mark. -/
theorem forall₂_zip (h : List.Forall₂ (fun d L => written d ≤ L) docs Ls) (marks : List Bool) :
    List.Forall₂ (fun d L => d.1 = L.1 ∧ written d.2 ≤ L.2) (marks.zip docs) (marks.zip Ls) := by
  induction h generalizing marks with
  | nil =>
      rw [List.zip_nil_right, List.zip_nil_right]
      exact .nil
  | cons hd hrest ih =>
      cases marks with
      | nil => exact .nil
      | cons mark marks => exact .cons ⟨rfl, hd⟩ (ih marks)

theorem written_anglesDoc {args : List (Bool × List Doc)} {codes : List (Bool × Language Char)}
    (h : List.Forall₂ (fun d L => d.1 = L.1 ∧ written d.2 ≤ L.2) args codes) :
    written (anglesDoc false args) ≤ anglesCode codes := by
  have hfilter : ∀ keep : Bool → Bool, List.Forall₂ (fun d L => d.1 = L.1 ∧ written d.2 ≤ L.2)
      (args.filter fun d => keep d.1) (codes.filter fun L => keep L.1) := by
    intro keep
    induction h with
    | nil => exact .nil
    | cons hd hrest ih =>
        rw [List.filter_cons, List.filter_cons, hd.1]
        split
        · exact .cons hd ih
        · exact ih
  have hordered := List.rel_append (hfilter id) (hfilter not)
  dsimp only [anglesDoc, anglesCode, id] at hordered ⊢
  generalize args.filter (fun d => d.1) ++ args.filter (fun d => !d.1) = args at hordered ⊢
  generalize codes.filter (fun L => L.1) ++ codes.filter (fun L => !L.1) = codes at hordered ⊢
  have hempty : args.isEmpty = codes.isEmpty := by cases hordered <;> rfl
  rw [hempty]
  split
  · exact le_rfl
  · rw [Doc.written_append, written_wordIf, litIf, if_neg Bool.false_ne_true, one_mul]
    refine Doc.written_bracketed ?_
    rw [List.forall₂_map_left_iff, List.forall₂_map_right_iff]
    exact hordered.imp fun d L h => h.2

theorem exprForm?_ofFragment (f : Fragment) : (ofFragment f).exprForm? = f.exprForm? := by
  obtain ⟨n, tokens⟩ := f
  cases n with
  | mk form attrs parts =>
      rw [ofFragment, ofNode]
      cases form <;> rfl
  | type => rfl
  | args => rfl
  | bound => rfl

theorem written_constDoc (f : Fragment) : written (constDoc (ofFragment f)) ≤ f.constCode := by
  have hbraces : written (.text "\x7b" :: (ofFragment f).plain ++ [.text "\x7d"])
      ≤ lit "\x7b" * f.code * lit "\x7d" := by
    rw [List.cons_append, Doc.written_text, Doc.written_append, Doc.written_singleton, mul_assoc]
    exact le_rfl
  rw [constDoc, exprForm?_ofFragment, Fragment.constCode]
  generalize f.exprForm? = form
  cases form with
  | none => exact hbraces
  | some form =>
      cases form with
      | literal value => exact le_rfl
      | path => exact le_rfl
      | block kind =>
          cases kind with
          | plain label => exact le_rfl
          | _ => exact hbraces
      | _ => exact hbraces

theorem written_boundDocs (h : List.Forall₂ (fun d L => written d ≤ L) docs Ls) :
    written [Doc.ibox step (boundDocs docs)] ≤ constraintCode Ls := by
  rw [boundDocs, constraintCode]
  cases h with
  | nil => exact Doc.written_group_of_lone nofun
  | cons hd hrest =>
      refine (Doc.written_group rfl).trans ?_
      rw [List.isEmpty_cons, if_neg Bool.false_ne_true, List.isEmpty_cons,
        if_neg Bool.false_ne_true, Doc.written_text]
      refine mul_le_mul_right (written_joined ?_ (.cons hd hrest)) _
      rw [Doc.written_space, Doc.written_singleton]

end Forms

mutual

theorem written_ofType : ∀ ty : Ty, written (ofType false ty) ≤ ty.code
  | .path p => by
      rw [ofType, Ty.code]
      exact written_ofPath p
  | .qualified self n (.mk leading segments) => by
      have hself := written_ofType self
      have hsegments := written_ofSegments n (n = 0 || leading) segments
      have hclose : written (if n = 0 then [Doc.text ">"] else [Doc.text " as "])
          = lit (if n = 0 then ">" else " as ") := by
        split <;> exact Doc.written_singleton _
      rw [ofType, Ty.code, List.cons_append, List.cons_append, Doc.written_text,
        Doc.written_append, Doc.written_append, hclose]
      simp only [mul_assoc]
      gcongr
  | .tuple elems _ => by
      rw [ofType, Ty.code]
      exact written_tuple (written_ofTypes elems)
  | .array elem len => by
      have helem := written_ofType elem
      rw [ofType, Ty.code]
      simp only [List.cons_append, List.append_assoc, Doc.written_text, Doc.written_append,
        Doc.written_nil, mul_one, mul_assoc]
      gcongr
      exact le_rfl
  | .slice elem => by
      rw [ofType, Ty.code, List.cons_append, Doc.written_text, Doc.written_append,
        Doc.written_singleton, mul_assoc]
      exact mul_le_mul_right (mul_le_mul_left (written_ofType elem) _) _
  | .pointer mutable elem => by
      rw [ofType, Ty.code]
      exact Doc.written_text_le (written_ofType elem)
  | .reference lifetime mutable elem => by
      have hmutable : lit (if mutable = true then "mut " else "") = litIf mutable "mut " := by
        cases mutable <;> rfl
      rw [ofType.eq_def, Ty.code.eq_def]
      dsimp only
      rw [Doc.written_text, lit_append, lit_append, hmutable]
      refine mul_le_mul' (mul_le_mul_left (mul_le_mul_right ?_ _) _) (written_ofType elem)
      cases lifetime <;> exact le_rfl
  | .implTrait bounds _ => by
      rw [ofType, Ty.code]
      exact Doc.written_text_le
        (written_joined (Doc.written_singleton _).le (written_ofBounds bounds))
  | .traitObject _ bounds _ => by
      rw [ofType, Ty.code]
      exact Doc.written_text_le
        (written_joined (Doc.written_singleton _).le (written_ofBounds bounds))
  | .paren elem => by
      rw [ofType, Ty.code, List.cons_append, Doc.written_text, Doc.written_append,
        Doc.written_singleton, mul_assoc]
      exact mul_le_mul_right (mul_le_mul_left (written_ofType elem) _) _
  | .never => by
      rw [ofType, Ty.code]
      exact (Doc.written_singleton _).le
  | .infer => by
      rw [ofType, Ty.code]
      exact (Doc.written_singleton _).le
  | .other fragment => by
      rw [ofType, Ty.code]
      exact le_rfl

theorem written_ofTypes : ∀ tys : List Ty,
    List.Forall₂ (fun d L => written d ≤ L) (ofTypes tys) (Ty.codes tys)
  | [] => by
      rw [ofTypes, Ty.codes]
      exact .nil
  | ty :: rest => by
      rw [ofTypes, Ty.codes]
      exact .cons (written_ofType ty) (written_ofTypes rest)

theorem written_ofPath : ∀ p : Path, written (ofPath false p) ≤ p.code
  | .mk leading segments => by
      rw [ofPath, Path.code]
      exact written_ofSegments 0 leading segments

theorem written_ofSegments (close : Nat) (between : Bool) : ∀ segments : List Segment,
    written (ofSegments false close between segments) ≤ Segment.codes close between segments
  | [] => by
      rw [ofSegments, Segment.codes]
      exact le_rfl
  | .mk ident args :: rest => by
      have hargs := written_ofArgs args
      have hrest := written_ofSegments (close - 1) true rest
      have hclose : written (if close = 1 then [Doc.text ">"] else [])
          = litIf (close = 1) ">" := by
        rw [← written_wordIf, wordIf]
        simp only [decide_eq_true_eq]
      have hname : lit ((if between = true then "::" else "") ++ ident.text)
          = litIf between "::" * lit ident.text := by
        rw [lit_append]
        cases between <;> rfl
      rw [ofSegments, Segment.codes, Bool.false_and, List.cons_append, List.cons_append,
        Doc.written_text, Doc.written_append, Doc.written_append, hclose, hname]
      simp only [mul_assoc]
      gcongr

theorem written_ofArgs : ∀ args : GenericArgs, written (ofArgs false args) ≤ args.code
  | .none => by
      rw [ofArgs, GenericArgs.code]
      exact le_rfl
  | .angle _ args _ => by
      rw [ofArgs, GenericArgs.code]
      refine written_anglesDoc ?_
      exact forall₂_zip (written_ofGenericArgs args) _
  | .paren inputs _ output => by
      have hinputs : written (if inputs.isEmpty then [Doc.zeroBack]
          else zero :: commaList (ofTypes inputs)) ≤ gap * items (Ty.codes inputs) := by
        cases inputs with
        | nil =>
            rw [List.isEmpty_nil, if_pos rfl, Doc.written_zeroBack, Ty.codes, items]
            exact le_rfl
        | cons ty rest =>
            rw [List.isEmpty_cons, if_neg Bool.false_ne_true, Doc.written_zero]
            exact mul_le_mul_right (Doc.written_commaList (written_ofTypes (ty :: rest))) _
      have houtput : written (match output with
            | some ty => Doc.text " -> " :: ofType false ty
            | none => [])
          ≤ match output with
            | some ty => lit " -> " * ty.code
            | none => 1 := by
        cases output with
        | none => exact le_rfl
        | some ty => exact mul_le_mul_right (written_ofType ty) _
      rw [ofArgs.eq_def, GenericArgs.code.eq_def]
      dsimp only
      refine (Doc.written_group rfl).trans ?_
      rw [List.cons_append, Doc.written_text, Doc.written_append, Doc.written_text, enclosed]
      refine (mul_le_mul_right (mul_le_mul' hinputs (mul_le_mul_right houtput _)) _).trans_eq ?_
      simp only [mul_assoc]

theorem written_ofGenericArgs : ∀ args : List GenericArg,
    List.Forall₂ (fun d L => written d ≤ L) (ofGenericArgs args) (GenericArg.codes args)
  | [] => by
      rw [ofGenericArgs, GenericArg.codes]
      exact .nil
  | a :: rest => by
      rw [ofGenericArgs, GenericArg.codes]
      exact .cons (written_ofGenericArg a) (written_ofGenericArgs rest)

theorem written_ofGenericArg : ∀ a : GenericArg, written (ofGenericArg a) ≤ a.code
  | .lifetime name => by
      rw [ofGenericArg, GenericArg.code]
      exact (Doc.written_singleton _).le
  | .type ty => by
      rw [ofGenericArg, GenericArg.code]
      exact written_ofType ty
  | .const value => by
      rw [ofGenericArg, GenericArg.code]
      exact written_constDoc value
  | .assocType name args ty => by
      rw [ofGenericArg, GenericArg.code, List.cons_append, Doc.written_text, Doc.written_append,
        Doc.written_text, mul_assoc, mul_assoc]
      exact mul_le_mul_right (mul_le_mul' (written_ofArgs args)
        (mul_le_mul_right (written_ofType ty) _)) _
  | .assocConst name args value => by
      rw [ofGenericArg, GenericArg.code, List.cons_append, Doc.written_text,
        Doc.written_append, Doc.written_text, mul_assoc, mul_assoc]
      exact mul_le_mul_right (mul_le_mul_left (written_ofArgs args) _) _
  | .constraint name args bounds _ => by
      rw [ofGenericArg, GenericArg.code, List.cons_append, Doc.written_text,
        Doc.written_append, mul_assoc]
      exact mul_le_mul_right (mul_le_mul' (written_ofArgs args)
        (written_boundDocs (written_ofBounds bounds))) _

theorem written_ofBound : ∀ b : Bound, written (ofBound b) ≤ b.code
  | .interface paren relaxed binder path => by
      have hbinder : written (match binder with
            | some b => (ofFragment b).plain
            | none => [])
          ≤ match binder with
            | some b => b.code
            | none => 1 := by
        cases binder <;> exact le_rfl
      rw [ofBound.eq_def, Bound.code.eq_def]
      simp only [Doc.written_append, written_wordIf]
      exact mul_le_mul_left (mul_le_mul' (mul_le_mul_left (mul_le_mul_right hbinder _) _)
        (written_ofPath path)) _
  | .lifetime name => by
      rw [ofBound, Bound.code]
      exact (Doc.written_singleton _).le
  | .other fragment => by
      rw [ofBound, Bound.code]
      exact le_rfl

theorem written_ofBounds : ∀ bounds : List Bound,
    List.Forall₂ (fun d L => written d ≤ L) (ofBounds bounds) (Bound.codes bounds)
  | [] => by
      rw [ofBounds, Bound.codes]
      exact .nil
  | b :: rest => by
      rw [ofBounds, Bound.codes]
      exact .cons (written_ofBound b) (written_ofBounds rest)

end

end Layout

end TraitRoutes
