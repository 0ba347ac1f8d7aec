import Confinement.Settings.Basic
import Mathlib.Data.List.Induction

/-!
# Layers over one another

What stands under a key when layers are laid over one another.  It is what the uppermost layer that
has the key says by itself (`lookup?_joined`), except that a table leaves standing the entries of
the tables below it that it does not have (`extends_lookup?_joined`).
-/

namespace Confinement.Settings

namespace Value

def isTable : Value → Bool
  | .table _ => true
  | _ => false

theorem entries_of_not_isTable {value : Value} (flat : value.isTable = false) :
    value.entries = [] := by
  cases value with
  | table entries => cases flat
  | null | bool | natural | integer | other | text | list => rfl

/-! ## One key -/

/-- The values that entries give to a key, in order. -/
def under (key : String) : List (String × Value) → List Value
  | [] => []
  | (name, value) :: rest => if key = name then value :: under key rest else under key rest

/-- What values make of what they are laid over, one after another. -/
def laid (found : Option Value) (values : List Value) : Option Value :=
  values.foldl (fun found value => some (overlay (found.getD .null) value)) found

theorem lookup?_overlayEntries (below above : List (String × Value)) (key : String) :
    lookup? (overlayEntries below above) key = laid (lookup? below key) (under key above) := by
  induction above generalizing below with
  | nil => rfl
  | cons entry rest hypothesis =>
      obtain ⟨name, value⟩ := entry
      rw [overlayEntries, hypothesis, lookup?_put]
      by_cases same : key = name
      · rw [if_pos same, under, if_pos same, same]
        rfl
      · rw [if_neg same, under, if_neg same]

/-! ## What lies below -/

/-- Whether some entries also have the values of others that are no tables. -/
def Includes (entries more : List (String × Value)) : Prop :=
  ∀ key value, lookup? entries key = some value → value.isTable = false →
    lookup? more key = some value

/-- Whether a value is another one, or a table with the entries of that one and more. -/
def Extends (value wider : Value) : Prop :=
  wider = value ∨ value.isTable = true ∧ wider.isTable = true ∧
    Includes value.entries wider.entries

theorem includes_nil (entries : List (String × Value)) : Includes [] entries := by
  rintro key value ⟨⟩

theorem Extends.includes {value wider : Value} (extended : Extends value wider) :
    Includes value.entries wider.entries := by
  rcases extended with rfl | ⟨_, _, included⟩
  · exact fun _ _ found _ => found
  · exact included

theorem Extends.eq_of_not_isTable
    {value wider : Value}
    (extended : Extends value wider)
    (flat : value.isTable = false) :
    wider = value := by
  rcases extended with same | ⟨table, _⟩
  · exact same
  · exact absurd (flat.symm.trans table) Bool.false_ne_true

theorem overlay_of_not_isTable {value : Value} (below : Value) (flat : value.isTable = false) :
    overlay below value = value := by
  cases value with
  | table entries => cases flat
  | null | bool | natural | integer | other | text | list => rfl

theorem overlay_congr {below other : Value} (value : Value) (same : below.entries = other.entries) :
    overlay below value = overlay other value := by
  cases value with
  | table entries => rw [overlay, overlay, same]
  | null | bool | natural | integer | other | text | list => rfl

theorem isTable_overlay (below value : Value) : (overlay below value).isTable = value.isTable := by
  cases value with
  | table | null | bool | natural | integer | other | text | list => rfl

/-- The last value to be laid is what counts, unless it is a table. -/
theorem laid_append_singleton_of_not_isTable
    {found : Option Value} {values : List Value} {last : Value}
    (flat : last.isTable = false) :
    laid found (values ++ [last]) = some last := by
  rw [laid, List.foldl_append]
  exact congrArg some (overlay_of_not_isTable _ flat)

theorem overlay_extends
    {below other : Value}
    (value : Value)
    (included : Includes below.entries other.entries) :
    Extends (overlay below value) (overlay other value) := by
  cases value with
  | null | bool | natural | integer | other | text | list => exact .inl rfl
  | table above =>
      refine .inr ⟨rfl, rfl, fun key value found flat => ?_⟩
      change lookup? (overlayEntries below.entries above) key = some value at found
      change lookup? (overlayEntries other.entries above) key = some value
      rw [lookup?_overlayEntries] at found ⊢
      rcases List.eq_nil_or_concat (under key above) with none | ⟨first, last, parts⟩
      · rw [none] at found ⊢
        exact included key value found flat
      · rw [parts, List.concat_eq_append, laid, List.foldl_append] at found
        have is_last := Option.some.inj found
        rw [← is_last, isTable_overlay] at flat
        rw [overlay_of_not_isTable _ flat] at is_last
        rw [parts, List.concat_eq_append, laid_append_singleton_of_not_isTable flat, is_last]

/-- Values extend over more what they are over less. -/
theorem laid_extends
    {found other : Option Value} {values : List Value}
    (included : Includes (found.getD .null).entries (other.getD .null).entries)
    (some_values : values ≠ []) :
    ∃ value wider, laid found values = some value ∧ laid other values = some wider ∧
      Extends value wider := by
  induction values generalizing found other with
  | nil => exact absurd rfl some_values
  | cons value rest hypothesis =>
      have onward := overlay_extends value included
      cases rest with
      | nil => exact ⟨_, _, rfl, rfl, onward⟩
      | cons next last =>
          exact @hypothesis (some _) (some _) onward.includes (List.cons_ne_nil _ _)

theorem laid_none_extends
    {values : List Value}
    (found : Option Value)
    (some_values : values ≠ []) :
    ∃ value wider, laid none values = some value ∧ laid found values = some wider ∧
      Extends value wider :=
  laid_extends (includes_nil _) some_values

/-- Values come to the same over anything that has the same entries. -/
theorem laid_congr
    {found other : Option Value} {values : List Value}
    (same : (found.getD .null).entries = (other.getD .null).entries)
    (some_values : values ≠ []) :
    laid found values = laid other values := by
  cases values with
  | nil => exact absurd rfl some_values
  | cons value rest =>
      rw [laid, List.foldl_cons, overlay_congr value same]
      rfl

end Value

/-! ## Layers -/

/-- What a layer says of a key by itself. -/
def said (layer : Value) (key : String) : Option Value :=
  Value.lookup? (Value.overlay .null layer).entries key

/-- What the last of some layers to have a key says of it, or else the standard settings. -/
def uppermost (layers : List Value) (key : String) : Option Value :=
  (layers.reverse.findSome? fun layer => said layer key).or
    (Value.lookup? standard.layer.entries key)

variable {layers : List Value} {below layer value : Value} {key : String}

theorem uppermost_concat (layers : List Value) (layer : Value) (key : String) :
    uppermost (layers ++ [layer]) key = (said layer key).or (uppermost layers key) := by
  rw [uppermost, List.reverse_concat, List.findSome?_cons]
  cases said layer key with
  | none => rfl
  | some value => rfl

theorem joined_concat (layers : List Value) (layer : Value) :
    joined (layers ++ [layer]) = (joined layers).overlay layer := by
  rw [joined, List.foldl_append]
  rfl

theorem said_table (entries : List (String × Value)) (key : String) :
    said (.table entries) key = Value.laid none (Value.under key entries) :=
  Value.lookup?_overlayEntries [] entries key

/-- A layer leaves what stands under a key that it does not have. -/
theorem lookup?_overlay_of_silent
    (table : layer.isTable = true)
    (silent : said layer key = none) :
    Value.lookup? (below.overlay layer).entries key = Value.lookup? below.entries key := by
  cases layer with
  | null | bool | natural | integer | other | text | list => cases table
  | table entries =>
      rw [said_table] at silent
      change Value.lookup? (Value.overlayEntries below.entries entries) key = _
      rw [Value.lookup?_overlayEntries]
      by_cases absent : Value.under key entries = []
      · rw [absent]
        rfl
      · obtain ⟨value, _, given, _⟩ := Value.laid_none_extends none absent
        exact absurd (silent.symm.trans given) (Option.some_ne_none _).symm

/-- What a layer says of a key is extended by what stood there, if that was a table. -/
theorem lookup?_overlay_of_said
    (below : Value)
    (table : layer.isTable = true)
    (told : said layer key = some value) :
    ∃ wider, Value.lookup? (below.overlay layer).entries key = some wider ∧
      value.Extends wider ∧
      (((Value.lookup? below.entries key).getD .null).entries = [] → wider = value) := by
  cases layer with
  | null | bool | natural | integer | other | text | list => cases table
  | table entries =>
      rw [said_table] at told
      change ∃ wider,
        Value.lookup? (Value.overlayEntries below.entries entries) key = some wider ∧ _
      rw [Value.lookup?_overlayEntries]
      have present : Value.under key entries ≠ [] := by
        intro absent
        rw [absent] at told
        cases told
      obtain ⟨own, wider, given, found, extended⟩ :=
        Value.laid_none_extends (Value.lookup? below.entries key) present
      obtain rfl : own = value := Option.some.inj (given.symm.trans told)
      refine ⟨wider, found, extended, fun bare => ?_⟩
      exact Option.some.inj (found.symm.trans ((Value.laid_congr bare present).trans given))

/-- What stands under a key in joined layers extends what the uppermost one says. -/
theorem extends_lookup?_joined
    (tables : ∀ layer ∈ layers, layer.isTable = true) :
    Option.Rel Value.Extends (uppermost layers key)
      (Value.lookup? (joined layers).entries key) := by
  induction layers using List.reverseRecOn with
  | nil =>
      change Option.Rel _ (Value.lookup? standard.layer.entries key)
        (Value.lookup? standard.layer.entries key)
      cases Value.lookup? standard.layer.entries key with
      | none => exact .none
      | some value => exact .some (.inl rfl)
  | append_singleton layers layer hypothesis =>
      have table := tables layer (List.mem_append_right _ (List.mem_singleton_self _))
      have others := hypothesis fun other member => tables other (List.mem_append_left _ member)
      rw [uppermost_concat, joined_concat]
      cases told : said layer key with
      | none =>
          rw [lookup?_overlay_of_silent table told]
          exact others
      | some value =>
          obtain ⟨wider, found, extended, _⟩ :=
            lookup?_overlay_of_said (joined layers) table told
          rw [found]
          exact .some extended

/-- Whether a layer has a table under a key. -/
def SaysTable (layer : Value) (key : String) : Prop :=
  (said layer key).any Value.isTable = true

instance : Decidable (SaysTable layer key) := inferInstanceAs (Decidable (_ = true))

theorem standard_says_no_table
    (found : Value.lookup? standard.layer.entries key = some value) :
    value.isTable = false := by
  have flat : ∀ entry ∈ standard.layer.entries, entry.2.isTable = false := by decide
  obtain ⟨_, _, parts, _⟩ := List.lookup_eq_some_iff.1 found
  exact flat _ (parts ▸ List.mem_append_right _ List.mem_cons_self)

theorem uppermost_says_no_table
    (flat : ∀ layer ∈ layers, ¬SaysTable layer key)
    (found : uppermost layers key = some value) :
    value.isTable = false := by
  rw [uppermost, Option.or_eq_some_iff] at found
  rcases found with found | ⟨_, found⟩
  · obtain ⟨layer, member, told⟩ := List.exists_of_findSome?_eq_some found
    have bare := flat layer (List.mem_reverse.1 member)
    rw [SaysTable, told] at bare
    exact Bool.eq_false_iff.2 bare
  · exact standard_says_no_table found

/-- Under a key that is no table in two layers, joined layers have what the uppermost says. -/
theorem lookup?_joined
    (tables : ∀ layer ∈ layers, layer.isTable = true)
    (apart : layers.Pairwise fun lower upper => ¬(SaysTable lower key ∧ SaysTable upper key)) :
    Value.lookup? (joined layers).entries key = uppermost layers key := by
  induction layers using List.reverseRecOn with
  | nil => rfl
  | append_singleton layers layer hypothesis =>
      have table := tables layer (List.mem_append_right _ (List.mem_singleton_self _))
      obtain ⟨others_apart, _, from_others⟩ := List.pairwise_append.1 apart
      have others := hypothesis
        (fun other member => tables other (List.mem_append_left _ member)) others_apart
      rw [uppermost_concat, joined_concat]
      cases told : said layer key with
      | none => rw [lookup?_overlay_of_silent table told, others, Option.none_or]
      | some value =>
          obtain ⟨wider, found, extended, bare⟩ :=
            lookup?_overlay_of_said (joined layers) table told
          rw [found, Option.some_or]
          cases kind : value.isTable with
          | false => rw [extended.eq_of_not_isTable kind]
          | true =>
              have says_table : SaysTable layer key := by
                rw [SaysTable, told]
                exact kind
              have flat : ∀ other ∈ layers, ¬SaysTable other key := fun other member both =>
                from_others other member layer (List.mem_singleton_self _) ⟨both, says_table⟩
              rw [bare]
              rw [others]
              cases top : uppermost layers key with
              | none => rfl
              | some under => exact Value.entries_of_not_isTable (uppermost_says_no_table flat top)

end Confinement.Settings
