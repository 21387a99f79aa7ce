/-
Why visits end.

A visit goes on within the answers of the transform, which are no parts of the rows, so that
nothing about the rows alone says that it ends.  It does if no answer nests deeper than what
was given: the entries that a value shows nest less deep than the value, one step of coercion
takes nesting away at most, and so every answer within an answer nests less deep than that.
The bound within which rows are visited is then never reached, and along every path of calls,
each within the answer of the one before, there are no more calls than the rows nest.
-/
import PooledQuery.Proofs.Rows.Calls

namespace PooledQuery

namespace Fields

open Value

/-! ### Nesting -/

theorem nesting_le_of_entry {entries : List (Value × Value)} {entry : Value × Value}
    (member : entry ∈ entries) : nesting entry.2 ≤ nestingOfEntries entries := by
  induction entries with
  | nil => cases member
  | cons first rest ih =>
      rw [nestingOfEntries]
      rcases List.mem_cons.mp member with rfl | later
      · exact Nat.le_max_left _ _
      · exact Nat.le_trans (ih later) (Nat.le_max_right _ _)

theorem nesting_plain {value given : Value} (coerces : value.plain = .ok given) :
    nesting given ≤ nesting value := by
  cases value with
  | number n =>
      cases n <;> cases coerces <;> exact Nat.le_refl _
  | _ =>
      cases coerces <;> exact Nat.le_refl _

mutual

theorem nesting_outerEntries (value : Value) :
    ∀ entry ∈ value.outerEntries, nesting entry.2 < nesting value := by
  cases value with
  | table view entries =>
      intro entry member
      exact Nat.lt_succ_of_le (nesting_le_of_entry member)
  | list items => exact nesting_outerEntriesOfItems items
  | tuple items => exact nesting_outerEntriesOfItems items
  | set frozen items => exact nesting_outerEntriesOfItems items
  | member enumeration name named =>
      intro entry member
      rw [outerEntries] at member
      split at member
      · exact nesting_outerEntries named entry member
      · cases member
  | _ => exact fun _entry none => nomatch none

theorem nesting_outerEntriesOfItems (items : List Value) :
    ∀ entry ∈ outerEntriesOfItems items, nesting entry.2 < nestingOfItems items := by
  cases items with
  | nil => exact fun _entry none => nomatch none
  | cons item rest =>
      intro entry member
      rw [outerEntriesOfItems] at member
      rw [nestingOfItems]
      rcases List.mem_append.mp member with first | later
      · exact Nat.lt_of_lt_of_le (nesting_outerEntries item entry first) (Nat.le_max_left _ _)
      · exact Nat.lt_of_lt_of_le (nesting_outerEntriesOfItems rest entry later)
          (Nat.le_max_right _ _)

end

theorem nesting_answeredEntries (answer : Value) :
    ∀ entry ∈ answer.answeredEntries, nesting entry.2 < nesting answer := by
  intro entry member
  unfold answeredEntries at member
  split at member
  · exact nesting_outerEntries answer entry member
  · cases member

end Fields

/-- No answer nests deeper than the value that was given. -/
def Transform.KeepsNesting (transform : Transform) : Prop :=
  ∀ name given answer, transform.apply name given = .ok answer →
    Fields.nesting answer ≤ Fields.nesting given

namespace Fields

open Value

variable {transform : Transform}

/-! ### Answers within answers -/

/-- An answer of the transform for an entry that an answer shows. -/
def AnswersWithin (transform : Transform) (inner outer : Value) : Prop :=
  ∃ entry ∈ outer.answeredEntries, ∃ given, entry.2.plain = .ok given ∧
    transform.apply entry.1.plainText given = .ok inner

private theorem nesting_lt_of_answersWithin (keeps : transform.KeepsNesting) {inner outer : Value}
    (within : AnswersWithin transform inner outer) : nesting inner < nesting outer := by
  obtain ⟨entry, member, given, coerces, answers⟩ := within
  calc nesting inner
      ≤ nesting given := keeps _ _ _ answers
    _ ≤ nesting entry.2 := nesting_plain coerces
    _ < nesting outer := nesting_answeredEntries outer entry member

private theorem answersWithin_wellFounded (keeps : transform.KeepsNesting) :
    WellFounded (AnswersWithin transform) :=
  Subrelation.wf (nesting_lt_of_answersWithin keeps) (measure nesting).wf

/-! ### The bound -/

def visitThrough (transform : Transform) (beyond : Value → Visit Value) :
    (limit : Nat) → Value → Visit Value
  | 0, value => beyond value
  | limit + 1, value => visit transform (visitThrough transform beyond limit) value

private theorem visitThrough_throw (transform : Transform) (limit : Nat) :
    visitThrough transform (fun _value => throw .nestingTooDeep) limit =
      visitWithin transform limit := by
  induction limit with
  | zero => rfl
  | succ limit ih =>
      funext value
      rw [visitThrough, visitWithin, ih]

private theorem call_bind_congr {α : Type} {name : Text} {given : Value}
    {next other : Value → Visit α}
    (same : ∀ answer, transform.apply name given = .ok answer → next answer = other answer) :
    (Visit.call transform name given >>= next) = (Visit.call transform name given >>= other) := by
  unfold Visit.call
  cases answers : transform.apply name given with
  | error failure => rfl
  | ok answer =>
      change (modify (fun calls => (name, given) :: calls) >>= fun _called => next answer) = _
      rw [same answer answers]
      rfl

variable {descend other : Value → Visit Value}

def AgreeBelow (bound : Nat) (descend other : Value → Visit Value) : Prop :=
  ∀ answer, nesting answer < bound → descend answer = other answer

mutual

theorem visit_congr {bound : Nat} (keeps : transform.KeepsNesting)
    (agree : AgreeBelow bound descend other) (value : Value) (shallow : nesting value ≤ bound) :
    visit transform descend value = visit transform other value := by
  cases value with
  | table view entries =>
      unfold visit
      rw [visitEntries_congr keeps agree entries shallow]
  | list items =>
      unfold visit
      rw [visitItems_congr keeps agree items shallow]
  | tuple items =>
      unfold visit
      rw [visitItems_congr keeps agree items shallow]
  | _ =>
      unfold visit
      rfl

theorem visitItem_congr {bound : Nat} (keeps : transform.KeepsNesting)
    (agree : AgreeBelow bound descend other) (item : Value) (shallow : nesting item ≤ bound) :
    visitItem transform descend item = visitItem transform other item := by
  cases item with
  | table view entries =>
      unfold visitItem
      rw [visitEntries_congr keeps agree entries shallow]
  | list items =>
      unfold visitItem
      rw [visitItems_congr keeps agree items shallow]
  | tuple items =>
      unfold visitItem
      rw [visitItems_congr keeps agree items shallow]
  | set frozen items =>
      unfold visitItem
      rw [visitItems_congr keeps agree items shallow]
  | member enumeration name named =>
      unfold visitItem
      exact visit_congr keeps agree named shallow
  | _ => rfl

theorem visitItems_congr {bound : Nat} (keeps : transform.KeepsNesting)
    (agree : AgreeBelow bound descend other) (items : List Value)
    (shallow : nestingOfItems items ≤ bound) :
    visitItems transform descend items = visitItems transform other items := by
  cases items with
  | nil => rfl
  | cons item rest =>
      have bounds := Nat.max_le.mp shallow
      unfold visitItems
      rw [visitItem_congr keeps agree item bounds.1, visitItems_congr keeps agree rest bounds.2]

theorem visitEntries_congr {bound : Nat} (keeps : transform.KeepsNesting)
    (agree : AgreeBelow bound descend other) (entries : List (Value × Value))
    (shallow : nestingOfEntries entries < bound) :
    visitEntries transform descend entries = visitEntries transform other entries := by
  cases entries with
  | nil => rfl
  | cons entry rest =>
      obtain ⟨key, value⟩ := entry
      have bounds := Nat.max_lt.mp shallow
      unfold visitEntries
      rw [visitEntries_congr keeps agree rest bounds.2]
      refine congrArg (Visit.ofExcept key.writtenText >>= ·) (funext fun name => ?_)
      cases coerces : value.plain with
      | error failure => rfl
      | ok given =>
          have follows (answer : Value) (answers : transform.apply name given = .ok answer) :
              descend answer = other answer := by
            refine agree answer (Nat.lt_of_le_of_lt ?_ bounds.1)
            exact Nat.le_trans (keeps _ _ _ answers) (nesting_plain coerces)
          change (Visit.call transform name given >>= _) = (Visit.call transform name given >>= _)
          refine call_bind_congr fun answer answers => ?_
          rw [follows answer answers]

end

/-- Where the limit is above the nesting, what lies beyond it is of no matter. -/
theorem visitThrough_eq (keeps : transform.KeepsNesting) (beyond further : Value → Visit Value)
    {limit more : Nat} {value : Value} (within : nesting value < limit)
    (alsoWithin : nesting value < more) :
    visitThrough transform beyond limit value = visitThrough transform further more value := by
  induction limit generalizing more value with
  | zero => exact absurd within (Nat.not_lt_zero _)
  | succ limit ih =>
      cases more with
      | zero => exact absurd alsoWithin (Nat.not_lt_zero _)
      | succ more =>
          exact visit_congr keeps (fun answer less => ih (Nat.lt_of_lt_of_le less
            (Nat.le_of_lt_succ within)) (Nat.lt_of_lt_of_le less (Nat.le_of_lt_succ alsoWithin)))
            value (Nat.le_refl _)

/-- The rows after a visit that goes on beyond the limit in another way. -/
def normalizedThrough (transform : Transform) (beyond : Value → Visit Value) (limit : Nat)
    (rows : List Value) : Visit (List Json) := do
  let visited ← visitItems transform (visitThrough transform beyond limit) rows
  return Json.readBackItems (← Visit.ofExcept (Json.ofValues false visited))

private theorem normalized_eq_through (keeps : transform.KeepsNesting)
    (beyond : Value → Visit Value)
    {items : List Value} {limit : Nat} (enough : nestingOfItems items ≤ limit) :
    normalized transform items = normalizedThrough transform beyond limit items := by
  have same : visitItems transform
      (visitWithin transform (nestingOfItems items + nestingAllowance)) items =
        visitItems transform (visitThrough transform beyond limit) items := by
    rw [← visitThrough_throw]
    refine visitItems_congr keeps (fun answer less => ?_) items (Nat.le_refl _)
    exact visitThrough_eq keeps _ beyond (Nat.lt_of_lt_of_le less (Nat.le_add_right _ _))
      (Nat.lt_of_lt_of_le less enough)
  unfold normalized normalizedThrough
  dsimp only
  rw [same]

/-! ### Paths of calls -/

/-- Calls of which each is for an entry that the answer to the one before shows, the first for
one of the given entries.  The last one may be refused. -/
inductive CallPath (transform : Transform) : List (Value × Value) → List FieldCall → Prop
  | last {entries : List (Value × Value)} {entry : Value × Value} {given : Value}
      (member : entry ∈ entries) (coerces : entry.2.plain = .ok given) :
      CallPath transform entries [(entry.1.plainText, given)]
  | further {entries : List (Value × Value)} {entry : Value × Value} {given answer : Value}
      {path : List FieldCall} (member : entry ∈ entries) (coerces : entry.2.plain = .ok given)
      (answers : transform.apply entry.1.plainText given = .ok answer)
      (inner : CallPath transform answer.answeredEntries path) :
      CallPath transform entries ((entry.1.plainText, given) :: path)

theorem CallPath.mono {entries others : List (Value × Value)} {path : List FieldCall}
    (calls : CallPath transform entries path) (subset : entries ⊆ others) :
    CallPath transform others path := by
  cases calls with
  | last member coerces => exact .last (subset member) coerces
  | further member coerces answers inner => exact .further (subset member) coerces answers inner

theorem CallPath.length_le (keeps : transform.KeepsNesting) {entries : List (Value × Value)}
    {path : List FieldCall} (calls : CallPath transform entries path) {bound : Nat}
    (shallow : ∀ entry ∈ entries, nesting entry.2 < bound) : path.length ≤ bound := by
  induction calls generalizing bound with
  | last member coerces => exact Nat.lt_of_le_of_lt (Nat.zero_le _) (shallow _ member)
  | further member coerces answers inner ih =>
      have less := shallow _ member
      have kept := Nat.le_trans (keeps _ _ _ answers) (nesting_plain coerces)
      have rest := ih (nesting_answeredEntries _)
      exact Nat.lt_of_le_of_lt rest (Nat.lt_of_le_of_lt kept less)

theorem CallPath.ofHead {name value given : Value} {rest : List (Value × Value)}
    (coerces : value.plain = .ok given) :
    CallPath transform ((name, value) :: rest) [(name.plainText, given)] :=
  @CallPath.last transform _ (name, value) given List.mem_cons_self coerces

theorem CallPath.throughHead {name value given answer : Value} {rest : List (Value × Value)}
    {path : List FieldCall} (coerces : value.plain = .ok given)
    (answers : transform.apply name.plainText given = .ok answer)
    (inner : CallPath transform answer.answeredEntries path) :
    CallPath transform ((name, value) :: rest) ((name.plainText, given) :: path) :=
  @CallPath.further transform _ (name, value) given answer path List.mem_cons_self coerces
    answers inner

private theorem Recounts.ends_path {entries : List (Value × Value)} {complete : Bool}
    {made : List FieldCall} (recounts : Recounts transform entries complete made) :
    ∀ call ∈ made, ∃ path, CallPath transform entries (path ++ [call]) := by
  induction recounts with
  | nil => exact fun _call none => nomatch none
  | cut entries => exact fun _call none => nomatch none
  | refused coerces =>
      intro call member
      rw [List.mem_singleton.mp member]
      exact ⟨[], .ofHead coerces⟩
  | within coerces answers inner ih =>
      intro call member
      rcases List.mem_cons.mp member with rfl | deeper
      · exact ⟨[], .ofHead coerces⟩
      · obtain ⟨path, calls⟩ := ih call deeper
        exact ⟨_ :: path, .throughHead coerces answers calls⟩
  | further coerces answers inner follows ihInner ihLater =>
      intro call member
      rcases List.mem_cons.mp member with rfl | more
      · exact ⟨[], .ofHead coerces⟩
      · rcases List.mem_append.mp more with deeper | later
        · obtain ⟨path, calls⟩ := ihInner call deeper
          exact ⟨_ :: path, .throughHead coerces answers calls⟩
        · obtain ⟨path, calls⟩ := ihLater call later
          exact ⟨path, calls.mono (List.subset_cons_self _ _)⟩

/-- If no answer of the transform nests deeper than what was given, then answers within answers
come to an end, the bound on a visit of rows makes no difference, and a path of calls has at
most as many of them as the rows nest.  All calls that are made lie on such paths. -/
theorem normalizedRows_ends (keeps : transform.KeepsNesting) {rows : Value} {items : List Value}
    (lists : rows.elements = .ok items) :
    WellFounded (AnswersWithin transform) ∧
    (∀ beyond limit, nestingOfItems items ≤ limit →
      normalizedRows transform rows = normalizedThrough transform beyond limit items) ∧
    (∀ path, CallPath transform rows.rowEntries path → path.length ≤ nestingOfItems items) ∧
    ∀ call ∈ (normalizedRows transform rows).outcome.2,
      ∃ path, CallPath transform rows.rowEntries (path ++ [call]) := by
  refine ⟨answersWithin_wellFounded keeps, fun beyond limit enough => ?_, fun path calls => ?_, ?_⟩
  · rw [← normalized_eq_through keeps beyond enough]
    unfold normalizedRows
    rw [lists]
    rfl
  · rw [rowEntries_of_elements lists] at calls
    exact calls.length_le keeps (nesting_outerEntriesOfItems items)
  · exact (normalizedRows_recounts transform rows).outcome.ends_path

/-- A transform that puts the values of a table in place of the table. -/
def unwrapping : Transform where
  observed := false
  apply _ given :=
    match given with
    | .table _ entries => .ok (.list (entries.map (·.2)))
    | other => .ok other

private theorem nestingOfItems_values (entries : List (Value × Value)) :
    nestingOfItems (entries.map (·.2)) = nestingOfEntries entries := by
  induction entries with
  | nil => rfl
  | cons entry rest ih =>
      rw [List.map_cons, nestingOfItems, nestingOfEntries, ih]

theorem unwrapping_keepsNesting : unwrapping.KeepsNesting := by
  intro name given answer answers
  cases given with
  | table view entries =>
      cases answers
      change nestingOfItems (entries.map (·.2)) ≤ nestingOfEntries entries + 1
      rw [nestingOfItems_values]
      exact Nat.le_succ _
  | _ =>
      cases answers
      exact Nat.le_refl _

theorem orders_end_unwrapped :
    unwrapping.KeepsNesting ∧ (Value.list orders).elements = .ok orders ∧
      nestingOfItems orders = 2 ∧
      ∀ path, CallPath unwrapping (Value.list orders).rowEntries path → path.length ≤ 2 := by
  have lists : (Value.list orders).elements = .ok orders := rfl
  have depth : nestingOfItems orders = 2 := rfl
  have ends := normalizedRows_ends unwrapping_keepsNesting lists
  rw [depth] at ends
  exact ⟨unwrapping_keepsNesting, lists, depth, ends.2.2.1⟩

def wrapping : Transform where
  observed := false
  apply _ given := .ok (.table false [(.text "value", given)])

/-- Answers that nest deeper go on without an end. -/
theorem not_wellFounded_of_wrapping : ¬ WellFounded (AnswersWithin wrapping) := by
  intro wellFounded
  let wrapped : Value := .table false [(.text "value", .null)]
  have within : AnswersWithin wrapping wrapped wrapped :=
    ⟨_, List.mem_cons_self, .null, rfl, rfl⟩
  refine wellFounded.induction (C := fun value => value ≠ wrapped) wrapped ?_ rfl
  rintro _ none rfl
  exact none wrapped within rfl

end Fields
end PooledQuery
