import StepPipeline.Proofs.Condition.Agreement
import StepPipeline.Proofs.Condition.Negation
import StepPipeline.Proofs.Json.Floats
import StepPipeline.Proofs.Store.Names

/-!
# When arrays and records are equal

Two numbers are equal when their floats are, so `1` equals `1.0`. The parts of two arrays or records
are compared more strictly: they have to be the same, and `1` and `1.0` are not. Two numbers that
are equal and not the same are called twins (`Json.Twins`). Nothing but twins makes the difference
(`Json.same_iff`): arrays and records are equal exactly if their parts are, and no two parts are
twins.

Main statement: `equal_by_parts`.
-/

namespace StepPipeline

namespace Json

/-- Two numbers of one size that are not the same: an integer and a float, or two integers that
floats cannot tell apart. -/
def Twins (v w : Json) : Prop :=
  ∃ m n, v = .num m ∧ w = .num n ∧ (m.toFloat == n.toFloat) = true ∧ m.same n = false

variable {v w : Json}

/-- To be the same is to be equal, but for twins. -/
theorem same_iff : v.same w = true ↔ v.equal w = true ∧ ¬v.Twins w := by
  by_cases hnumbers : ∃ m n, v = .num m ∧ w = .num n
  · obtain ⟨m, n, rfl, rfl⟩ := hnumbers
    simp only [same, equal, Twins, num.injEq]
    constructor
    · intro hsame
      refine ⟨Number.toFloat_beq_of_same hsame, ?_⟩
      rintro ⟨_, _, rfl, rfl, -, hother⟩
      exact absurd (hsame.symm.trans hother) nofun
    · rintro ⟨hequal, htwins⟩
      cases hsame : m.same n with
      | true => rfl
      | false => exact absurd ⟨m, n, rfl, rfl, hequal, hsame⟩ htwins
  · -- Other values are compared in one way only, and there are no twins among them.
    have htwins : ¬v.Twins w := fun ⟨m, n, hm, hn, _⟩ => hnumbers ⟨m, n, hm, hn⟩
    have hequal : v.equal w = v.same w := by
      unfold equal
      split
      · exact absurd ⟨_, _, rfl, rfl⟩ hnumbers
      · rfl
    rw [hequal, and_iff_left htwins]

/-! ## Part by part -/

/-- By the recursion of the comparison, position by position. -/
theorem sameItems_iff {xs ys : List Json} (hlength : xs.length = ys.length) :
    sameItems xs ys = true ↔
      ∀ (i : Nat) (x y : Json), xs[i]? = some x → ys[i]? = some y → x.same y = true := by
  induction xs generalizing ys with
  | nil =>
      obtain rfl := List.length_eq_zero_iff.mp hlength.symm
      exact iff_of_true rfl nofun
  | cons x xs ih =>
      cases ys with
      | nil => cases hlength
      | cons y ys =>
          rw [sameItems, Bool.and_eq_true, ih (Nat.succ.inj hlength)]
          constructor
          · rintro ⟨hfirst, hrest⟩ i
            cases i with
            | zero =>
                rintro _ _ ⟨⟩ ⟨⟩
                exact hfirst
            | succ i => exact hrest i
          · intro h
            exact ⟨h 0 x y rfl rfl, fun i => h (i + 1)⟩

/-- By names, for which both records have them in the same places. -/
theorem sameFields_iff {xs ys : Record} (hnames : Table.NamesOnce xs)
    (hkeys : Table.keys xs = Table.keys ys) : sameFields xs ys = true ↔
      ∀ (key : String) (x y : Json), Table.find? xs key = some x → Table.find? ys key = some y →
        x.same y = true := by
  induction xs generalizing ys with
  | nil =>
      obtain rfl := List.map_eq_nil_iff.mp hkeys.symm
      exact iff_of_true rfl nofun
  | cons e xs ih =>
      cases ys with
      | nil => cases hkeys
      | cons f ys =>
          obtain ⟨k, x⟩ := e
          obtain ⟨l, y⟩ := f
          obtain ⟨rfl, hrest⟩ := List.cons.inj hkeys
          obtain ⟨hfirst, hnames⟩ := Table.namesOnce_cons.mp hnames
          rw [sameFields, Bool.and_eq_true, Bool.and_eq_true, ih hnames hrest]
          constructor
          · rintro ⟨⟨-, hsame⟩, hall⟩ key x' y' hx hy
            rw [Table.find?_cons] at hx hy
            by_cases hkey : k = key
            · rw [if_pos hkey] at hx hy
              cases hx
              cases hy
              exact hsame
            · rw [if_neg hkey] at hx hy
              exact hall key x' y' hx hy
          · intro h
            refine ⟨⟨beq_self_eq_true k, h k x y (if_pos rfl) (if_pos rfl)⟩, ?_⟩
            intro key x' y' hx hy
            -- The first name does not occur again.
            have hkey : ¬k = key := by
              rintro rfl
              rw [hfirst] at hx
              cases hx
            exact h key x' y' ((if_neg hkey).trans hx) ((if_neg hkey).trans hy)

theorem equal_arr_iff {xs ys : List Json} (hlength : xs.length = ys.length) :
    (arr xs).equal (arr ys) = true ↔ ∀ (i : Nat) (x y : Json), xs[i]? = some x →
      ys[i]? = some y → x.equal y = true ∧ ¬x.Twins y := by
  show sameItems xs ys = true ↔ _
  simp only [sameItems_iff hlength, same_iff]

theorem equal_obj_iff {xs ys : Record} (hxs : Table.Sorted xs) (hys : Table.Sorted ys)
    (hnames : ∀ key, Table.contains xs key = Table.contains ys key) :
    (obj xs).equal (obj ys) = true ↔ ∀ (key : String) (x y : Json), Table.find? xs key = some x →
      Table.find? ys key = some y → x.equal y = true ∧ ¬x.Twins y := by
  show sameFields xs ys = true ↔ _
  simp only [sameFields_iff hxs.namesOnce (Table.keys_eq_of_sorted hxs hys hnames), same_iff]

end Json

/-! ## Conditions on a record and on its fields -/

namespace Condition

def equals (path : String) (expected : Json) : Condition :=
  ⟨path, Operator.equals.name, some expected⟩

def fieldsEqual (expected : Record) : List Condition := expected.map fun e => equals e.1 e.2

/-- A condition that a path equals a value asks for the equality of what is found there. -/
theorem holds_equals_iff {data expected found : Json} {path : String}
    (h : data.get? path = some found) :
    (equals path expected).holds data = .ok true ↔ found.equal expected = true := by
  rw [holds, equals, h, Operator.decide_of_operand]
  show (Except.ok (found.equal expected) : Except Fault Bool) = .ok true ↔ _
  rw [Except.ok.injEq]

theorem allHold_fieldsEqual_iff {xs ys : Record} (hys : Table.NamesOnce ys)
    (hnames : ∀ key, Table.contains xs key = Table.contains ys key)
    (hpaths : ∀ key, Table.contains xs key = true → Path.parse key = [.key key]) :
    allHold (.obj xs) (fieldsEqual ys) = .ok true ↔ ∀ (key : String) (x y : Json),
      Table.find? xs key = some x → Table.find? ys key = some y → x.equal y = true := by
  -- A name without dots and brackets is a path to the field of that name.
  have hfound : ∀ {key : String} {x : Json}, Table.find? xs key = some x →
      (Json.obj xs).get? key = some x := by
    intro key x hx
    have hkey : Table.contains xs key = true := by rw [Table.contains, hx]; rfl
    rw [Json.get?, hpaths key hkey, Json.getAt?, Json.child?]
    exact congrArg (Option.bind · _) hx
  rw [allHold_eq_true_iff, fieldsEqual, List.forall_mem_map]
  constructor
  · intro h key x y hx hy
    exact (holds_equals_iff (hfound hx)).mp (h _ (Table.mem_of_find? hy))
  · rintro h ⟨key, y⟩ hmem
    have hy : Table.find? ys key = some y := Table.find?_of_mem hys hmem
    have hkey : Table.contains xs key = true := by rw [hnames, Table.contains, hy]; rfl
    obtain ⟨x, hx⟩ := Option.isSome_iff_exists.mp hkey
    exact (holds_equals_iff (hfound hx)).mpr (h key x y hx hy)

end Condition

/-- **Arrays and records are equal by their parts, but for twins.** Two arrays of one length are
equal exactly if their items are, position by position, and no two items in one position are twins:
two numbers that are equal, and of which one is an integer and the other a float, or both are
integers and too great for floats to tell them apart. The same holds of two records with the same
names. So a condition on a whole record says what the conditions on its fields say, and that no
field and what it should be are twins. -/
theorem equal_by_parts {xs ys : List Json} {fields others : Record} :
    (xs.length = ys.length →
      ((Json.arr xs).equal (.arr ys) = true ↔ ∀ (i : Nat) (x y : Json), xs[i]? = some x →
        ys[i]? = some y → x.equal y = true ∧ ¬x.Twins y)) ∧
    (Table.Sorted fields → Table.Sorted others →
      (∀ key, Table.contains fields key = Table.contains others key) →
      ((Json.obj fields).equal (.obj others) = true ↔ ∀ (key : String) (x y : Json),
        Table.find? fields key = some x → Table.find? others key = some y →
          x.equal y = true ∧ ¬x.Twins y) ∧
      ((∀ key, Table.contains fields key = true → Path.parse key = [.key key]) →
        ((Condition.equals "" (.obj others)).holds (.obj fields) = .ok true ↔
          Condition.allHold (.obj fields) (Condition.fieldsEqual others) = .ok true ∧
          ∀ (key : String) (x y : Json), Table.find? fields key = some x →
            Table.find? others key = some y → ¬x.Twins y))) := by
  refine ⟨Json.equal_arr_iff, fun hfields hothers hnames =>
    ⟨Json.equal_obj_iff hfields hothers hnames, fun hpaths => ?_⟩⟩
  rw [Condition.holds_equals_iff rfl, Json.equal_obj_iff hfields hothers hnames,
    Condition.allHold_fieldsEqual_iff hothers.namesOnce hnames hpaths]
  simp only [forall_and]

def oneNumber (n : Number) : Record := [("list", .arr [.num n]), ("n", .num n)]

/-- One as an integer equals one as a float. With the one in it an array or a record does not equal
the same with the other. -/
theorem oneNumber_equal_by_parts :
    [Json.nat 1].length = [Json.num (.float 1)].length ∧
    (Json.nat 1).equal (.num (.float 1)) = true ∧
    (Json.arr [.nat 1]).equal (.arr [.num (.float 1)]) = false ∧
    Table.Sorted (oneNumber (.int 1)) ∧ Table.Sorted (oneNumber (.float 1)) ∧
    (∀ key, Table.contains (oneNumber (.int 1)) key = Table.contains (oneNumber (.float 1)) key) ∧
    (∀ key, Table.contains (oneNumber (.int 1)) key = true → Path.parse key = [.key key]) ∧
    (Condition.equals "n" (.num (.float 1))).holds (.obj (oneNumber (.int 1))) = .ok true ∧
    (Condition.equals "" (.obj (oneNumber (.float 1)))).holds (.obj (oneNumber (.int 1))) ≠
      .ok true := by
  obtain ⟨harrays, hrecords⟩ :=
    @equal_by_parts [.nat 1] [.num (.float 1)] (oneNumber (.int 1)) (oneNumber (.float 1))
  have htwins : (Json.nat 1).Twins (.num (.float 1)) :=
    ⟨.int 1, .float 1, rfl, rfl, by decide, rfl⟩
  have hsorted : ∀ n, Table.Sorted (oneNumber n) := fun n =>
    List.pairwise_pair.mpr (show "list" < "n" by decide)
  have hnames : ∀ key, Table.contains (oneNumber (.int 1)) key =
      Table.contains (oneNumber (.float 1)) key := by
    intro key
    simp only [oneNumber, Table.contains, Table.find?_cons]
    split
    · rfl
    · split <;> rfl
  have hpaths : ∀ key, Table.contains (oneNumber (.int 1)) key = true →
      Path.parse key = [.key key] := by
    intro key hkey
    have hmem : key ∈ ["list", "n"] := Table.mem_keys_iff.mpr hkey
    simp only [List.mem_cons, List.not_mem_nil, or_false] at hmem
    rcases hmem with rfl | rfl <;> decide
  refine ⟨rfl, by decide, Bool.eq_false_iff.mpr fun harray => ?_, hsorted _, hsorted _, hnames,
    hpaths, (Condition.holds_equals_iff rfl).mpr (by decide), fun hrecord => ?_⟩
  · exact ((harrays rfl).mp harray 0 _ _ rfl rfl).2 htwins
  · obtain ⟨-, hconditions⟩ := hrecords (hsorted _) (hsorted _) hnames
    exact ((hconditions hpaths).mp hrecord).2 "n" _ _ rfl rfl htwins

end StepPipeline
