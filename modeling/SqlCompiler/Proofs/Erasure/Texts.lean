import SqlCompiler.Proofs.Erasure.Erasing
import SqlCompiler.Select.Assembly
import SqlCompiler.Select.Comparison

namespace SqlCompiler

/-- Both results fail in the same way, or neither fails and what they give is related. -/
inductive Agree {α β : Type} (R : α → β → Prop) : Except Error α → Except Error β → Prop
  | ok {a : α} {b : β} (related : R a b) : Agree R (.ok a) (.ok b)
  | error (e : Error) : Agree R (.error e) (.error e)

namespace Agree

variable {α β γ δ : Type} {R : α → β → Prop} {S : γ → δ → Prop}

theorem pure {a : α} {b : β} (related : R a b) : Agree R (Pure.pure a) (Pure.pure b) := .ok related

theorem refl {R : α → α → Prop} (same : ∀ a, R a a) (result : Except Error α) : Agree R result result := by
  cases result with
  | ok a => exact .ok (same a)
  | error e => exact .error e

theorem bind {first : Except Error α} {second : Except Error β} {next : α → Except Error γ}
    {next' : β → Except Error δ} (agree : Agree R first second)
    (later : ∀ a b, R a b → Agree S (next a) (next' b)) : Agree S (first >>= next) (second >>= next') := by
  cases agree with
  | ok related => exact later _ _ related
  | error e => exact .error e

theorem map {first : Except Error α} {second : Except Error β} {f : α → γ} {g : β → δ} (agree : Agree R first second)
    (later : ∀ a b, R a b → S (f a) (g b)) :
    Agree S (first >>= fun a => Pure.pure (f a)) (second >>= fun b => Pure.pure (g b)) :=
  agree.bind fun a b related => .pure (later a b related)

end Agree

namespace Sql

def SameText (a b : Sql) : Prop := a.text = b.text

theorem SameText.append {a b c d : Sql} (left : a.SameText b) (right : c.SameText d) : (a ++ c).SameText (b ++ d) := by
  rw [SameText, text_append, text_append, left, right]

theorem SameText.after {a b : Sql} (same : a.SameText b) (s : Sql) : (s ++ a).SameText (s ++ b) :=
  append rfl same

theorem SameText.before {a b : Sql} (same : a.SameText b) (s : Sql) : (a ++ s).SameText (b ++ s) :=
  append same rfl

def SameTexts (as bs : List Sql) : Prop := as.map text = bs.map text

@[simp]
theorem text_raw (sql : String) (values : List Value) : (raw sql values).text = sql := by
  simp [text, raw, textOf, Piece.sql]

theorem text_join (separator : String) (parts : List Sql) :
    (join separator parts).text = separator.intercalate (parts.map text) := by
  fun_induction join separator parts with
  | case1 => rfl
  | case2 s => simp
  | case3 s next rest ih => simp [ih, String.intercalate_cons_cons]

theorem text_concat (parts : List Sql) :
    (concat parts).text = " ".intercalate ((parts.map text).filter fun s => !(s == "")) := by
  rw [concat, text_join, List.filter_map]
  rfl

theorem SameTexts.append {as bs cs ds : List Sql} (left : SameTexts as bs) (right : SameTexts cs ds) :
    SameTexts (as ++ cs) (bs ++ ds) := by
  rw [SameTexts, List.map_append, List.map_append, left, right]

theorem SameTexts.nil : SameTexts [] [] := rfl

theorem SameTexts.cons {a b : Sql} {as bs : List Sql} (head : a.SameText b) (tail : SameTexts as bs) :
    SameTexts (a :: as) (b :: bs) := by
  rw [SameTexts, List.map_cons, List.map_cons, head, tail]

theorem SameTexts.map {α β : Type} {R : α → β → Prop} {f : α → Sql} {g : β → Sql}
    (each : ∀ a b, R a b → (f a).SameText (g b)) {as : List α} {bs : List β} (related : List.Forall₂ R as bs) :
    SameTexts (as.map f) (bs.map g) := by
  induction related with
  | nil => rfl
  | cons head tail ih => exact SameTexts.cons (each _ _ head) ih

theorem SameTexts.join {as bs : List Sql} (same : SameTexts as bs) (separator : String) :
    (join separator as).SameText (join separator bs) := by
  rw [SameText, text_join, text_join, same]

theorem SameTexts.concat {as bs : List Sql} (same : SameTexts as bs) : (concat as).SameText (concat bs) := by
  rw [SameText, text_concat, text_concat, same]

end Sql

theorem Text.trimEnd_append (cs ds : List Char) :
    trimEnd (cs ++ ds) = if trimEnd ds = [] then trimEnd cs else cs ++ trimEnd ds := by
  induction cs with
  | nil =>
    split
    · assumption
    · rfl
  | cons c cs ih =>
    simp only [List.cons_append, trimEnd, ih]
    by_cases nothing : trimEnd ds = []
    · simp only [if_pos nothing]
    · simp only [if_neg nothing]
      cases kept : cs ++ trimEnd ds with
      | nil => exact absurd (List.append_eq_nil_iff.mp kept).2 nothing
      | cons d rest => rfl

namespace Sql

theorem Piece.sql_trimEnd (p : Piece) : (Piece.trimEnd p).sql = String.ofList (Text.trimEnd p.sql.toList) := by
  cases p with
  | text s => rfl
  | param v =>
    have kept : Text.trimEnd ['?'] = ['?'] := by decide
    simp only [Piece.trimEnd, Piece.sql, String.reduceToList, kept]
  | raw sql values => rfl

theorem textOf_trimPieces (pieces : List Piece) :
    textOf (trimPieces pieces) = String.ofList (Text.trimEnd (textOf pieces).toList) := by
  induction pieces with
  | nil => rfl
  | cons p rest ih =>
    simp only [trimPieces, textOf, String.toList_append, Text.trimEnd_append]
    split
    · rename_i nothing
      rw [ih] at nothing
      have blank : Text.trimEnd (textOf rest).toList = [] := by simpa using nothing
      rw [if_pos blank, textOf, Piece.sql_trimEnd, ih, blank]
      simp
    · rename_i something
      rw [ih] at something
      have kept : Text.trimEnd (textOf rest).toList ≠ [] := by simpa using something
      rw [if_neg kept, textOf, ih, String.ofList_append, String.ofList_toList]

theorem text_trimEnd (s : Sql) : s.trimEnd.text = String.ofList (Text.trimEnd s.text.toList) :=
  textOf_trimPieces s.pieces

end Sql

end SqlCompiler
