import Confinement.Policy.Label
import Confinement.Proofs.Text.Splitting
import Confinement.Staging.Context

/-!
# Labels apart

Applications have labels of their own, and their policy domains are as far apart as the names of
their modules.  The label of a file tells the application and the kind of the file, unless every
application may read it: no identifier has a colon, so a label can be cut at its last one
(`pathLabel_eq_iff`).
-/

namespace Confinement.Policy

open Staging

theorem applicationLabel_injective
    {id other : String}
    (same : applicationLabel id = applicationLabel other) :
    id = other :=
  (String.append_right_inj "App:").1 same

theorem domainLabel_eq_iff {id other : String} :
    domainLabel id = domainLabel other ↔ moduleName id = moduleName other := by
  constructor
  · intro same
    exact (String.append_right_inj "system_u:system_r:").1 ((String.append_left_inj "_t:s0").1 same)
  · intro same
    exact congrArg (fun name => "system_u:system_r:" ++ name ++ "_t:s0") same

/-! ## Labels of files -/

/-- What a label has before its last colon. -/
def labelStem (id : String) : Kind → String
  | .plain => "App"
  | .shared => "System"
  | _ => applicationLabel id

/-- What a label has behind its last colon. -/
def labelWord (id : String) : Kind → String
  | .plain => id
  | .shared => "Shared"
  | .conf => "Conf"
  | .data => "Data"
  | .exec => "Exec"
  | .http => "Http"
  | .icon => "Icon"
  | .id => "Id"
  | .lib => "Lib"
  | .plug => "Plug"

variable {id other : String} {kind otherKind : Kind}

theorem toList_pathLabel (id : String) (kind : Kind) :
    (pathLabel id kind).toList =
      (labelStem id kind).toList ++ ':' :: (labelWord id kind).toList := by
  cases kind <;>
    simp [pathLabel, applicationLabel, sharedLabel, labelStem, labelWord, String.toList_append]

theorem colon_not_mem_labelWord
    (valid : isValidId id = true)
    (kind : Kind) :
    ':' ∉ (labelWord id kind).toList := by
  rw [isValidId, Bool.and_eq_true, List.all_eq_true] at valid
  cases kind with
  | plain => exact fun inside => absurd (valid.2 _ inside) (by decide)
  | _ =>
      rw [labelWord]
      decide

theorem applicationLabel_ne
    {word : String}
    (noColon : ':' ∉ word.toList) :
    applicationLabel id ≠ word := by
  rintro rfl
  rw [applicationLabel, String.toList_append] at noColon
  exact noColon (List.mem_append_left _ (by decide))

theorem labelStem_eq_app_iff : labelStem id kind = "App" ↔ kind = .plain := by
  cases kind with
  | plain => exact iff_of_true rfl rfl
  | shared =>
      rw [labelStem]
      decide
  | _ => exact iff_of_false (applicationLabel_ne (by decide)) Kind.noConfusion

theorem labelStem_eq_system_iff : labelStem id kind = "System" ↔ kind = .shared := by
  cases kind with
  | plain =>
      rw [labelStem]
      decide
  | shared => exact iff_of_true rfl rfl
  | _ => exact iff_of_false (applicationLabel_ne (by decide)) Kind.noConfusion

theorem labelStem_of_ne
    (notPlain : kind ≠ .plain)
    (notShared : kind ≠ .shared) :
    labelStem id kind = applicationLabel id := by
  cases kind with
  | plain => exact absurd rfl notPlain
  | shared => exact absurd rfl notShared
  | _ => rfl

theorem labelWord_of_ne (notPlain : kind ≠ .plain) : labelWord id kind = labelWord "" kind := by
  cases kind with
  | plain => exact absurd rfl notPlain
  | _ => rfl

theorem labelWord_injective
    (notPlain : kind ≠ .plain)
    (otherNotPlain : otherKind ≠ .plain)
    (same : labelWord id kind = labelWord other otherKind) :
    kind = otherKind := by
  have found (kind : Kind) :
      Kind.all.find? (fun among => labelWord "" among == labelWord "" kind) = some kind := by
    cases kind <;> decide
  have first := found kind
  rw [labelWord_of_ne notPlain, labelWord_of_ne otherNotPlain] at same
  rw [same, found otherKind] at first
  exact (Option.some.inj first).symm

/-- Labels of files are the same for one application and kind, or where all may read the files. -/
theorem pathLabel_eq_iff
    (valid : isValidId id = true)
    (validOther : isValidId other = true) :
    pathLabel id kind = pathLabel other otherKind ↔
      (id = other ∧ kind = otherKind) ∨ (kind = .shared ∧ otherKind = .shared) := by
  constructor
  · intro same
    have cut := congrArg String.toList same
    rw [toList_pathLabel, toList_pathLabel] at cut
    obtain ⟨before, behind⟩ := Text.eq_of_append_separator (colon_not_mem_labelWord valid kind)
      (colon_not_mem_labelWord validOther otherKind) cut
    have stem := String.toList_inj.1 before
    have word := String.toList_inj.1 behind
    by_cases plain : kind = .plain
    · rw [labelStem_eq_app_iff.2 plain] at stem
      have otherPlain := labelStem_eq_app_iff.1 stem.symm
      subst plain otherPlain
      exact .inl ⟨word, rfl⟩
    · by_cases shared : kind = .shared
      · rw [labelStem_eq_system_iff.2 shared] at stem
        exact .inr ⟨shared, labelStem_eq_system_iff.1 stem.symm⟩
      · have otherPlain : otherKind ≠ .plain := by
          intro impossible
          rw [labelStem_eq_app_iff.2 impossible] at stem
          exact plain (labelStem_eq_app_iff.1 stem)
        have otherShared : otherKind ≠ .shared := by
          intro impossible
          rw [labelStem_eq_system_iff.2 impossible] at stem
          exact shared (labelStem_eq_system_iff.1 stem)
        rw [labelStem_of_ne plain shared, labelStem_of_ne otherPlain otherShared] at stem
        exact .inl ⟨applicationLabel_injective stem, labelWord_injective plain otherPlain word⟩
  · rintro (⟨rfl, rfl⟩ | ⟨rfl, rfl⟩)
    · rfl
    · rfl

theorem pathLabel_ne_systemLabel (id : String) (kind : Kind) : pathLabel id kind ≠ systemLabel := by
  intro same
  have colon : ':' ∈ (pathLabel id kind).toList := by
    rw [toList_pathLabel]
    exact List.mem_append_right _ List.mem_cons_self
  rw [same] at colon
  exact absurd colon (by decide)

end Confinement.Policy
