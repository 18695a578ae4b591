import SqlBuilder.Sql

/-!
The text of SQL by its parts.
-/

namespace SqlBuilder.Sql

@[simp] theorem toList_text_nil : (Sql.text []).toList = [] := rfl

theorem toList_text (sql : Sql) : sql.text.toList = sql.flatMap fun piece => piece.text.toList := by
  rw [text, String.toList_join, List.flatMap_map]

@[simp] theorem toList_text_cons (piece : Piece) (sql : Sql) :
    (Sql.text (piece :: sql)).toList = piece.text.toList ++ sql.text.toList := by
  rw [toList_text, toList_text, List.flatMap_cons]

@[simp] theorem toList_text_append (a b : Sql) :
    (Sql.text (a ++ b)).toList = a.text.toList ++ b.text.toList := by
  rw [toList_text, toList_text, toList_text, List.flatMap_append]

@[simp] theorem toList_text_code (s : String) : (Sql.code s).text.toList = s.toList := by
  simp [code, Piece.text]

@[simp] theorem text_append (a b : Sql) : Sql.text (a ++ b) = a.text ++ b.text :=
  String.toList_inj.mp (by simp)

@[simp] theorem text_code (s : String) : (Sql.code s).text = s :=
  String.toList_inj.mp (by simp)

theorem separated_cons_cons (separator : String) (part part' : Sql) (parts : List Sql) :
    separated separator (part :: part' :: parts) =
      part ++ (code separator ++ separated separator (part' :: parts)) := by
  rw [separated, List.intercalate_cons_cons, List.append_assoc]
  rfl

@[simp] theorem separated_singleton (separator : String) (part : Sql) :
    separated separator [part] = part :=
  List.intercalate_singleton

theorem separated_append_singleton (separator : String) {parts : List Sql} (h : parts ≠ []) (last : Sql) :
    separated separator (parts ++ [last]) = separated separator parts ++ (code separator ++ last) := by
  induction parts with
  | nil => exact absurd rfl h
  | cons part parts ih =>
    cases parts with
    | nil => rw [List.singleton_append, separated_cons_cons, separated_singleton, separated_singleton]
    | cons part' parts =>
      have hrest := ih (List.cons_ne_nil _ _)
      rw [List.cons_append, List.cons_append, separated_cons_cons, separated_cons_cons, ← List.cons_append,
        hrest]
      simp only [List.append_assoc]

@[simp] theorem bindings_append (a b : Sql) : Sql.bindings (a ++ b) = a.bindings ++ b.bindings :=
  List.filterMap_append

@[simp] theorem bindings_code (s : String) : (code s).bindings = [] := rfl

theorem bindings_separated (separator : String) (parts : List Sql) :
    (separated separator parts).bindings = parts.flatMap bindings := by
  induction parts with
  | nil => rfl
  | cons part parts ih =>
    cases parts with
    | nil => simp
    | cons part' parts =>
      rw [separated_cons_cons, bindings_append, bindings_append, ih]
      rfl

theorem toList_text_separated (separator : String) (parts : List Sql) :
    (separated separator parts).text.toList =
      List.intercalate separator.toList (parts.map fun part => part.text.toList) := by
  induction parts with
  | nil => rfl
  | cons part parts ih =>
    cases parts with
    | nil => simp
    | cons part' parts =>
      rw [separated_cons_cons, toList_text_append, toList_text_append, ih]
      simp [List.intercalate_cons_cons]

theorem text_separated (separator : String) (parts : List Sql) :
    (separated separator parts).text = separator.intercalate (parts.map text) := by
  rw [← String.toList_inj, toList_text_separated, String.toList_intercalate, List.map_map]
  rfl

end SqlBuilder.Sql
