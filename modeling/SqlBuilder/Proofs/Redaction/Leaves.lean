import Mathlib.Data.List.Forall2
import SqlBuilder.Proofs.Redaction.Exposure
import SqlBuilder.Proofs.Text.Cutting
import SqlBuilder.Proofs.Text.Skipping

/-!
Masked values leaf by leaf. Main statement: masking keeps how bindings are put together of lists and tuples and
all that stands in them, but for a mask in the place of every sensitive text and byte string.
-/

namespace SqlBuilder

/-- How a value is put together of lists and tuples, whatever stands in them. -/
inductive Nesting where
  | leaf
  | list (members : List Nesting)
  | tuple (members : List Nesting)

namespace Value

/-- Neither a list nor a tuple. -/
def IsLeaf : Value → Prop
  | .list _ => False
  | .tuple _ => False
  | _ => True

/-- What holds of leaves, and of a list or tuple if it holds of all its members, holds of every value. -/
@[elab_as_elim]
theorem nestedInduction {motive : Value → Prop} (list : ∀ xs, (∀ x ∈ xs, motive x) → motive (.list xs))
    (tuple : ∀ xs, (∀ x ∈ xs, motive x) → motive (.tuple xs)) (leaf : ∀ x, IsLeaf x → motive x) (x : Value) :
    motive x :=
  match x with
  | .list xs => list xs fun x _ => nestedInduction list tuple leaf x
  | .tuple xs => tuple xs fun x _ => nestedInduction list tuple leaf x
  | .null | .bool _ | .int _ | .float _ | .text _ | .bytes _ | .dict _ | .raw _ => leaf _ trivial

mutual

def nesting : Value → Nesting
  | .list xs => .list (nestingEach xs)
  | .tuple xs => .tuple (nestingEach xs)
  | _ => .leaf
termination_by structural x => x

def nestingEach : List Value → List Nesting
  | [] => []
  | x :: xs => nesting x :: nestingEach xs
termination_by structural xs => xs

end

mutual

/-- All that stands in lists and tuples and is neither, from the left. -/
def leaves : Value → List Value
  | .list xs => leavesEach xs
  | .tuple xs => leavesEach xs
  | x => [x]
termination_by structural x => x

def leavesEach : List Value → List Value
  | [] => []
  | x :: xs => leaves x ++ leavesEach xs
termination_by structural xs => xs

end

theorem nestingEach_eq_map (xs : List Value) : nestingEach xs = xs.map nesting := by
  induction xs with
  | nil => rfl
  | cons x xs ih => rw [nestingEach, ih, List.map_cons]

theorem leavesEach_eq_flatMap (xs : List Value) : leavesEach xs = xs.flatMap leaves := by
  induction xs with
  | nil => rfl
  | cons x xs ih => rw [leavesEach, ih, List.flatMap_cons]

theorem nesting_list (xs : List Value) : (list xs).nesting = .list (xs.map nesting) := by
  rw [nesting, nestingEach_eq_map]

theorem nesting_tuple (xs : List Value) : (tuple xs).nesting = .tuple (xs.map nesting) := by
  rw [nesting, nestingEach_eq_map]

theorem nesting_of_isLeaf {x : Value} (h : x.IsLeaf) : x.nesting = .leaf := by
  cases x with
  | list xs => cases h
  | tuple xs => cases h
  | _ => rfl

theorem leaves_list (xs : List Value) : (list xs).leaves = xs.flatMap leaves := by
  rw [leaves, leavesEach_eq_flatMap]

theorem leaves_tuple (xs : List Value) : (tuple xs).leaves = xs.flatMap leaves := by
  rw [leaves, leavesEach_eq_flatMap]

theorem leaves_of_isLeaf {x : Value} (h : x.IsLeaf) : x.leaves = [x] := by
  cases x with
  | list xs => cases h
  | tuple xs => cases h
  | _ => rfl

end Value

namespace Redaction

open Value (nesting leaves)

/-! ### What is sensitive -/

/-- One of the tokens for values stands in the text, in whatever case. -/
def HoldsValueToken (cs : List Char) : Prop :=
  ∃ token ∈ valueTokens, token.toList <:+: Text.lowerChars cs

/-- Texts that hold a token, and byte strings that do as far as they can be read. -/
inductive Sensitive : Value → Prop
  | text {text : String} : HoldsValueToken text.toList → Sensitive (.text text)
  | bytes {bytes : List UInt8} {cs : List Char} : Text.Legible (bytes.map UInt8.toNat) cs →
      HoldsValueToken cs → Sensitive (.bytes bytes)

theorem isSensitiveText_iff {cs : List Char} : isSensitiveText cs = true ↔ HoldsValueToken cs := by
  rw [isSensitiveText, List.any_eq_true]
  exact exists_congr fun token => and_congr_right fun _ => Text.occursIn_iff

theorem isSensitive_iff {x : Value} : isSensitive x = true ↔ Sensitive x := by
  cases x with
  | text text =>
    rw [isSensitive, isSensitiveValue, isSensitiveText_iff]
    refine ⟨.text, fun h => ?_⟩
    cases h with
    | text hholds => exact hholds
  | bytes bytes =>
    have hoctets : (bytes.map fun b => Text.Octet.byte b.toNat) = (bytes.map UInt8.toNat).map .byte := by
      rw [List.map_map]
      rfl
    rw [isSensitive, isSensitiveBytes, isSensitiveText_iff, hoctets]
    refine ⟨.bytes (Text.legible_decodeUtf8 _), fun h => ?_⟩
    cases h with
    | bytes hlegible hholds => rwa [Text.decodeUtf8_eq_iff.mpr hlegible]
  | _ =>
    refine iff_of_false Bool.false_ne_true fun h => ?_
    cases h

/-- A mask stands for what is sensitive, and everything else for itself. -/
inductive ShownAs (x : Value) : Value → Prop
  | masked : Sensitive x → ShownAs x (.text mask)
  | kept : ¬ Sensitive x → ShownAs x x

/-! ### Leaves of a masked value -/

theorem value_of_isLeaf {x : Value} (h : x.IsLeaf) : value x = if isSensitive x then .text mask else x := by
  cases x with
  | list xs => cases h
  | tuple xs => cases h
  | text text => rw [value, isSensitive]
  | bytes bytes => rw [value, isSensitive]
  | _ => rfl

theorem isLeaf_value {x : Value} (h : x.IsLeaf) : (value x).IsLeaf := by
  rw [value_of_isLeaf h]
  split
  · trivial
  · exact h

theorem shownAs_value {x : Value} (h : x.IsLeaf) : ShownAs x (value x) := by
  rw [value_of_isLeaf h]
  split
  · next hsensitive => exact .masked (isSensitive_iff.mp hsensitive)
  · next hplain => exact .kept (mt isSensitive_iff.mpr hplain)

theorem nesting_value (x : Value) : (value x).nesting = x.nesting := by
  induction x using Value.nestedInduction with
  | list xs ih =>
    rw [value_list, Value.nesting_list, Value.nesting_list, List.map_map]
    exact congrArg Nesting.list (List.map_congr_left ih)
  | tuple xs ih =>
    rw [value_tuple, Value.nesting_tuple, Value.nesting_tuple, List.map_map]
    exact congrArg Nesting.tuple (List.map_congr_left ih)
  | leaf x h => rw [Value.nesting_of_isLeaf h, Value.nesting_of_isLeaf (isLeaf_value h)]

theorem forall₂_flatMap_leaves {xs : List Value}
    (h : ∀ x ∈ xs, List.Forall₂ ShownAs x.leaves (value x).leaves) :
    List.Forall₂ ShownAs (xs.flatMap leaves) ((xs.map value).flatMap leaves) := by
  induction xs with
  | nil => exact .nil
  | cons x xs ih =>
    obtain ⟨hx, hxs⟩ := List.forall_mem_cons.mp h
    rw [List.map_cons, List.flatMap_cons, List.flatMap_cons]
    exact List.rel_append hx (ih hxs)

theorem shownAs_leaves (x : Value) : List.Forall₂ ShownAs x.leaves (value x).leaves := by
  induction x using Value.nestedInduction with
  | list xs ih =>
    rw [value_list, Value.leaves_list, Value.leaves_list]
    exact forall₂_flatMap_leaves ih
  | tuple xs ih =>
    rw [value_tuple, Value.leaves_tuple, Value.leaves_tuple]
    exact forall₂_flatMap_leaves ih
  | leaf x h =>
    rw [Value.leaves_of_isLeaf h, Value.leaves_of_isLeaf (isLeaf_value h)]
    exact .cons (shownAs_value h) .nil

/-- Nothing is sensitive in what is shown of a leaf, so that it is shown again as it is. -/
theorem value_value (x : Value) : value (value x) = value x := by
  induction x using Value.nestedInduction with
  | list xs ih =>
    rw [value_list, value_list, List.map_map]
    exact congrArg Value.list (List.map_congr_left ih)
  | tuple xs ih =>
    rw [value_tuple, value_tuple, List.map_map]
    exact congrArg Value.tuple (List.map_congr_left ih)
  | leaf x h => rw [value_of_isLeaf (isLeaf_value h), isSensitive_value, if_neg Bool.false_ne_true]

/-- Bindings are masked in their places: there are as many of them, nested in the same way, and a leaf is shown as
it is exactly if it is not sensitive. What was masked once is not changed by masking it again. -/
theorem bindings_masked_leafwise (bindings : List Value) :
    (values bindings).length = bindings.length ∧
      (values bindings).map nesting = bindings.map nesting ∧
      List.Forall₂ ShownAs (bindings.flatMap leaves) ((values bindings).flatMap leaves) ∧
      values (values bindings) = values bindings := by
  rw [values_eq_map, values_eq_map, List.map_map, List.map_map]
  refine ⟨List.length_map value, ?_, ?_, ?_⟩
  · exact List.map_congr_left fun x _ => nesting_value x
  · exact forall₂_flatMap_leaves fun x _ => shownAs_leaves x
  · exact List.map_congr_left fun x _ => value_value x

-- Two of the bytes belong to no character; the others read as a token.
example : values [.text "alice", .tuple [.list [.text "My Password"], .bytes [0xff, 116, 0xc3, 111, 107, 101, 110]]] =
    [.text "alice", .tuple [.list [.text mask], .text mask]] := by
  rfl

end Redaction

end SqlBuilder
