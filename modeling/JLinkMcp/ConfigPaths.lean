import JLinkMcp.ExtensionEnvironment
import Mathlib.Data.List.Infix

namespace JLinkMcp.Extensions

open Host

section values

variable {Leaf : Type}

/-- What stands at the end of a path. -/
def nodeAt : ConfigValue Leaf → List PyStr → Option (ConfigValue Leaf)
  | value, [] => some value
  | .leaf _, _ :: _ => none
  | .table fields, part :: rest =>
    match fields.find? fun field => field.1 = part with
    | none => none
    | some (_, child) => nodeAt child rest

/-- The leaf, where the value is no table. -/
def leaf? : ConfigValue Leaf → Option Leaf
  | .leaf value => some value
  | .table _ => none

/-- Whether something stands at the end of a path, and which leaf it is. -/
def look (value : ConfigValue Leaf) (path : List PyStr) : Option (Option Leaf) :=
    (nodeAt value path).map leaf?

/-- The dictionaries are equal, whatever the order of their keys. -/
def Config.Same (config config' : Config Leaf) : Prop :=
  ∀ path, look (.table config) path = look (.table config') path

variable {fields : Config Leaf} {part : PyStr} {rest : List PyStr} {value : ConfigValue Leaf}

theorem look_table_nil : look (.table fields) [] = some none := by
  rw [look, nodeAt, Option.map_some, leaf?]

theorem look_cons_none (h : fields.find? (fun field => field.1 = part) = none) :
    look (.table fields) (part :: rest) = none := by
  rw [look, nodeAt, h]
  rfl

theorem look_cons_some {name : PyStr} {child : ConfigValue Leaf}
    (h : fields.find? (fun field => field.1 = part) = some (name, child)) :
    look (.table fields) (part :: rest) = look child rest := by
  rw [look, nodeAt, h]
  rfl

/-- Above something there are tables. -/
theorem look_of_append {path : List PyStr} (nonempty : rest ≠ []) (h : look value (path ++ rest) ≠ none) :
    look value path = some none := by
  induction path generalizing value with
  | nil =>
    cases value with
    | leaf other =>
      cases rest with
      | nil => exact absurd rfl nonempty
      | cons part rest => exact absurd rfl h
    | table fields => rfl
  | cons part path ih =>
    cases value with
    | leaf other => exact absurd rfl h
    | table fields =>
      cases hfound : fields.find? (fun field => field.1 = part) with
      | none => exact absurd (look_cons_none hfound) h
      | some found =>
        rw [List.cons_append, look_cons_some hfound] at h
        rw [look_cons_some hfound]
        exact ih h

theorem find?_map_setField (name : PyStr) :
    (fields.map fun field => if field.1 = name then (name, value) else field).find?
        (fun field => field.1 = part) =
      if part = name ∧ fields.any (fun field => field.1 = name) then some (name, value)
      else fields.find? fun field => field.1 = part := by
  induction fields with
  | nil => simp
  | cons field fields ih =>
    by_cases hname : field.1 = name
    · by_cases hpart : part = name
      · simp [hname, hpart]
      · have hne : ¬name = part := fun h => hpart h.symm
        rw [List.map_cons, if_pos hname, List.find?_cons_of_neg (by simpa using hne), ih,
          List.find?_cons_of_neg (by simpa [hname] using hne)]
        simp [hpart]
    · rw [List.map_cons, if_neg hname, List.find?_cons, List.find?_cons]
      split
      next hfield =>
        have hpart : part ≠ name := fun h => hname ((of_decide_eq_true hfield).trans h)
        simp [hpart]
      next =>
        rw [ih, List.any_cons, decide_eq_false hname, Bool.false_or]

theorem find?_setField (name : PyStr) :
    (setField fields name value).find? (fun field => field.1 = part) =
      if part = name then some (name, value) else fields.find? fun field => field.1 = part := by
  rw [setField]
  split
  next hany =>
    rw [find?_map_setField]
    simp [hany]
  next hany =>
    rw [List.find?_append]
    by_cases hpart : part = name
    · have hnone : fields.find? (fun field => field.1 = part) = none := by
        rw [List.find?_eq_none]
        intro field hfield heq
        exact hany (List.any_eq_true.mpr ⟨field, hfield, by simpa [hpart] using heq⟩)
      rw [hnone, if_pos hpart]
      simp [hpart]
    · have hne : ¬name = part := fun h => hpart h.symm
      rw [if_neg hpart]
      simp [hne]

/-- The fields of the table at a name, none where it is missing. -/
def childOf (fields : Config Leaf) (part : PyStr) : Config Leaf :=
  match fields.find? fun field => field.1 = part with
  | some (_, .table child) => child
  | _ => []

theorem look_setField {name : PyStr} : look (.table (setField fields name value)) (part :: rest) =
    if part = name then look value rest else look (.table fields) (part :: rest) := by
  split
  next hpart =>
    refine look_cons_some ((find?_setField name).trans (if_pos hpart))
  next hpart =>
    have hsame : (setField fields name value).find? (fun field => field.1 = part) =
        fields.find? fun field => field.1 = part := (find?_setField name).trans (if_neg hpart)
    rw [look, look, nodeAt, nodeAt, hsame]

/-- No leaf stands on the way to the end of the path. -/
def Fits (config : Config Leaf) (path : List PyStr) : Prop :=
  ∀ q, q ≠ [] → q <+: path → q ≠ path → ∀ leaf, look (.table config) q ≠ some (some leaf)

section setPath

variable {config config' : Config Leaf} {path : List PyStr} {Refusal : Type} {conflict : Refusal}

theorem fits_single {last : PyStr} : Fits config [last] := by
  intro q nonempty hbegins hne
  rcases List.prefix_cons_iff.mp hbegins with rfl | ⟨t, rfl, ht⟩
  · exact absurd rfl nonempty
  · rw [List.prefix_nil.mp ht] at hne
    exact absurd rfl hne

theorem look_childOf (nonempty : rest ≠ [])
    (notLeaf : ∀ leaf, look (.table config) [part] ≠ some (some leaf)) :
    look (.table (childOf config part)) rest = look (.table config) (part :: rest) := by
  cases rest with
  | nil => exact absurd rfl nonempty
  | cons next rest =>
    cases hfound : config.find? (fun field => field.1 = part) with
    | none =>
      rw [childOf, hfound, look_cons_none hfound]
      rfl
    | some found =>
      obtain ⟨name, child⟩ := found
      rw [look_cons_some hfound]
      cases child with
      | leaf leaf => exact absurd (look_cons_some hfound) (notLeaf leaf)
      | table fields => rw [childOf, hfound]

theorem fits_cons (nonempty : rest ≠ []) : Fits config (part :: rest) ↔
    (∀ leaf, look (.table config) [part] ≠ some (some leaf)) ∧ Fits (childOf config part) rest := by
  constructor
  · intro fits
    have hpart : ∀ leaf, look (.table config) [part] ≠ some (some leaf) :=
      fits [part] (List.cons_ne_nil _ _) (List.prefix_cons_inj part |>.mpr (List.nil_prefix))
        (fun h => nonempty (List.cons.inj h).2.symm)
    refine ⟨hpart, fun q hq hbegins hne leaf => ?_⟩
    rw [look_childOf hq hpart]
    exact fits (part :: q) (List.cons_ne_nil _ _) (List.prefix_cons_inj part |>.mpr hbegins)
      (fun h => hne (List.cons.inj h).2) leaf
  · rintro ⟨hpart, fits⟩ q hq hbegins hne leaf
    rcases List.prefix_cons_iff.mp hbegins with rfl | ⟨t, rfl, ht⟩
    · exact absurd rfl hq
    · cases t with
      | nil => exact hpart leaf
      | cons next t =>
        rw [← look_childOf (List.cons_ne_nil _ _) hpart]
        exact fits (next :: t) (List.cons_ne_nil _ _) ht (fun h => hne (h ▸ rfl)) leaf

theorem setPath_cons {value : Except Refusal (ConfigValue Leaf)} (nonempty : rest ≠ []) :
    setPath conflict value config (part :: rest) = (do
      let child ← match config.find? fun field => field.1 = part with
        | none => pure []
        | some (_, .table child) => pure child
        | some (_, .leaf _) => throw conflict
      let changed ← setPath conflict value child rest
      return setField config part (.table changed)) := by
  cases rest with
  | nil => exact absurd rfl nonempty
  | cons next rest => rfl

/-- Where no leaf is in the way, the table at a name is entered. -/
theorem setPath_enter {value : Except Refusal (ConfigValue Leaf)} (nonempty : rest ≠ [])
    (notLeaf : ∀ leaf, look (.table config) [part] ≠ some (some leaf)) :
    setPath conflict value config (part :: rest) = (do
      let changed ← setPath conflict value (childOf config part) rest
      return setField config part (.table changed)) := by
  rw [setPath_cons nonempty, childOf]
  cases hfound : config.find? (fun field => field.1 = part) with
  | none => rfl
  | some found =>
    obtain ⟨name, child⟩ := found
    cases child with
    | leaf leaf => exact absurd (look_cons_some hfound) (notLeaf leaf)
    | table fields => rfl

/-- A leaf in the way is a conflict, whatever the value. -/
theorem setPath_conflict {value : Except Refusal (ConfigValue Leaf)} (nonempty : path ≠ [])
    (blocked : ¬Fits config path) : setPath conflict value config path = .error conflict := by
  induction path generalizing config with
  | nil => exact absurd rfl nonempty
  | cons part rest ih =>
    cases rest with
    | nil => exact absurd fits_single blocked
    | cons next rest =>
      have hrest : next :: rest ≠ [] := List.cons_ne_nil _ _
      by_cases hpart : ∀ leaf, look (.table config) [part] ≠ some (some leaf)
      · have hchild : ¬Fits (childOf config part) (next :: rest) := fun fits =>
          blocked ((fits_cons hrest).mpr ⟨hpart, fits⟩)
        rw [setPath_enter hrest hpart, ih hrest hchild]
        rfl
      · simp only [ne_eq, not_forall, not_not] at hpart
        obtain ⟨leaf, hleaf⟩ := hpart
        rw [setPath_cons hrest]
        cases hfound : config.find? (fun field => field.1 = part) with
        | none =>
          rw [look_cons_none hfound] at hleaf
          cases hleaf
        | some found =>
          obtain ⟨name, child⟩ := found
          rw [look_cons_some hfound] at hleaf
          cases child with
          | leaf other => rfl
          | table fields => cases hleaf

theorem setPath_error {e : Refusal} (nonempty : path ≠ []) (fits : Fits config path) :
    setPath conflict (.error e) config path = .error e := by
  induction path generalizing config with
  | nil => exact absurd rfl nonempty
  | cons part rest ih =>
    cases rest with
    | nil => rfl
    | cons next rest =>
      have hrest : next :: rest ≠ [] := List.cons_ne_nil _ _
      obtain ⟨hpart, hchild⟩ := (fits_cons hrest).mp fits
      rw [setPath_enter hrest hpart, ih hrest hchild]
      rfl

/-- The value stands at the end of the path, tables lead to it, and all else is as it was. -/
theorem setPath_ok (nonempty : path ≠ []) (fits : Fits config path) :
    ∃ config', setPath conflict (.ok value) config path = .ok config' ∧ ∀ q, look (.table config') q =
      if path <+: q then look value (q.drop path.length)
      else if q <+: path then some none else look (.table config) q := by
  induction path generalizing config with
  | nil => exact absurd rfl nonempty
  | cons part rest ih =>
    cases rest with
    | nil =>
      refine ⟨setField config part value, rfl, fun q => ?_⟩
      cases q with
      | nil => simp [look_table_nil]
      | cons a t =>
        rw [look_setField]
        by_cases ha : a = part
        · simp [ha]
        · have ha' : ¬part = a := fun h => ha h.symm
          simp [ha, ha', List.cons_prefix_cons]
    | cons next rest =>
      have hrest : next :: rest ≠ [] := List.cons_ne_nil _ _
      obtain ⟨hpart, hchild⟩ := (fits_cons hrest).mp fits
      obtain ⟨child', hset, hlook⟩ := ih hrest hchild
      refine ⟨setField config part (.table child'), ?_, fun q => ?_⟩
      · rw [setPath_enter hrest hpart, hset]
        rfl
      · cases q with
        | nil => simp [look_table_nil]
        | cons a t =>
          rw [look_setField]
          by_cases ha : a = part
          · subst ha
            rw [if_pos rfl, hlook t]
            simp only [List.prefix_cons_inj, List.length_cons, List.drop_succ_cons]
            split
            next => rfl
            next =>
              split
              next => rfl
              next hnot =>
                exact look_childOf (fun hempty => hnot (hempty ▸ List.nil_prefix)) hpart
          · have ha' : ¬part = a := fun h => ha h.symm
            simp [ha, ha', List.cons_prefix_cons]

end setPath

end values

end JLinkMcp.Extensions
