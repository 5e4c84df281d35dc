import CameraHotplug.Proofs.NodeName

/-!
# Where a path leads

A file is found by the components of its path, so one file has many spellings. The path of a device
node ends in a component that ends in the suffix, whatever the directory and the prefix look like.
So two nodes of one prefix share a place only if they share the suffix, and neither shares a place
with the name attribute of the other.
-/

namespace CameraHotplug

namespace Path

/-! ### Segments -/

theorem segments_cons_of_ne {char : Char} {text first : List Char} {rest : List (List Char)}
    (hchar : char ≠ '/') (htext : segments text = first :: rest) :
    segments (char :: text) = (char :: first) :: rest := by
  simp only [segments, htext]

theorem segments_of_not_mem {text : List Char} (htext : '/' ∉ text) : segments text = [text] := by
  induction text with
  | nil => rfl
  | cons char text ih =>
      rw [List.mem_cons, not_or] at htext
      exact segments_cons_of_ne (Ne.symm htext.1) (ih htext.2)

/-- What is added without a separator lengthens the last segment. -/
theorem exists_segments_append (text : List Char) :
    ∃ front last, ∀ tail, '/' ∉ tail → segments (text ++ tail) = front ++ [last ++ tail] := by
  induction text with
  | nil => exact ⟨[], [], fun tail htail => segments_of_not_mem htail⟩
  | cons char text ih =>
      obtain ⟨front, last, hsegments⟩ := ih
      by_cases hchar : char = '/'
      · subst hchar
        refine ⟨[] :: front, last, ?_⟩
        intro tail htail
        rw [List.cons_append, segments, hsegments tail htail, List.cons_append]
      · cases front with
        | nil =>
            exact ⟨[], char :: last, fun tail htail =>
              segments_cons_of_ne hchar (hsegments tail htail)⟩
        | cons first front =>
            exact ⟨(char :: first) :: front, last, fun tail htail =>
              segments_cons_of_ne hchar (hsegments tail htail)⟩

theorem segments_ne_nil (text : List Char) : segments text ≠ [] := by
  obtain ⟨front, last, hsegments⟩ := exists_segments_append text
  have htext := hsegments [] (by simp)
  rw [List.append_nil] at htext
  simp [htext]

theorem segments_append_separator (text rest : List Char) :
    segments (text ++ '/' :: rest) = segments text ++ segments rest := by
  induction text with
  | nil => rfl
  | cons char text ih =>
      by_cases hchar : char = '/'
      · subst hchar
        rw [List.cons_append, segments, ih, segments, List.cons_append]
      · obtain ⟨first, parts, hparts⟩ := List.exists_cons_of_ne_nil (segments_ne_nil text)
        rw [hparts, List.cons_append] at ih
        rw [List.cons_append, segments_cons_of_ne hchar ih, segments_cons_of_ne hchar hparts,
          List.cons_append]

/-! ### Components -/

theorem componentOf?_eq_named {segment : List Char} {char : Char}
    (hlast : segment.getLast? = some char) (hchar : char ≠ '.') :
    componentOf? segment = some (.named segment) := by
  have hother : ∀ dots : List Char, dots.getLast? ≠ some char → segment ≠ dots := by
    rintro dots hdots rfl
    exact hdots hlast
  have hnil : segment ≠ [] := hother [] (by simp)
  have hcurrent : segment ≠ ['.'] := hother ['.'] (by simpa using hchar.symm)
  have hparent : segment ≠ ['.', '.'] := hother ['.', '.'] (by simpa using hchar.symm)
  simp [componentOf?, hnil, hcurrent, hparent]

theorem componentsOf_separator (text : List Char) :
    componentsOf ('/' :: text) = .root :: (segments ('/' :: text)).filterMap componentOf? := rfl

theorem componentsOf_current {text : List Char} {parts : List (List Char)}
    (htext : text.head? ≠ some '/') (hsegments : segments text = ['.'] :: parts) :
    componentsOf text = .current :: parts.filterMap componentOf? := by
  unfold componentsOf
  split
  next => exact absurd rfl htext
  next others _ hothers =>
    obtain rfl : parts = others := (List.cons.inj (hsegments.symm.trans hothers)).2
    rfl
  next hother => exact absurd hsegments (hother parts)

theorem componentsOf_of_ne {text first : List Char} {parts : List (List Char)}
    (htext : text.head? ≠ some '/') (hsegments : segments text = first :: parts)
    (hfirst : first ≠ ['.']) :
    componentsOf text = (first :: parts).filterMap componentOf? := by
  unfold componentsOf
  split
  next => exact absurd rfl htext
  next hothers => exact absurd (List.cons.inj (hsegments.symm.trans hothers)).1 hfirst
  next => rw [hsegments]

/-- A leading separator or dot is no part of the last component. -/
theorem getLast?_componentsOf {text segment : List Char} {front : List (List Char)}
    {component : Component} (hsegments : segments text = front ++ [segment])
    (hcomponent : componentOf? segment = some component) :
    (componentsOf text).getLast? = some component := by
  have hlast : ∀ parts : List (List Char),
      ((parts ++ [segment]).filterMap componentOf?).getLast? = some component := by
    intro parts
    rw [List.filterMap_append, List.filterMap_cons_some hcomponent, List.filterMap_nil,
      List.getLast?_concat]
  by_cases htext : text.head? = some '/'
  · obtain ⟨rest, rfl⟩ := List.head?_eq_some_iff.mp htext
    rw [componentsOf_separator, hsegments, List.getLast?_cons, hlast front, Option.getD_some]
  · cases front with
    | nil =>
        have hsegment : segment ≠ ['.'] := by
          rintro rfl
          simp [componentOf?] at hcomponent
        rw [componentsOf_of_ne htext hsegments hsegment]
        exact hlast []
    | cons first front =>
        by_cases hfirst : first = ['.']
        · rw [hfirst] at hsegments
          rw [componentsOf_current htext hsegments, List.getLast?_cons]
          exact congrArg some (congrArg (Option.getD · _) (hlast front))
        · rw [componentsOf_of_ne htext hsegments hfirst]
          exact hlast (first :: front)

theorem componentsOf_append_separator {text entry : List Char} (htext : text ≠ [])
    (hentry : '/' ∉ entry) :
    componentsOf (text ++ '/' :: entry) = componentsOf text ++ (componentOf? entry).toList := by
  have hsegments := segments_append_separator text entry
  rw [segments_of_not_mem hentry] at hsegments
  have hlonger : ∀ parts : List (List Char), (parts ++ [entry]).filterMap componentOf? =
      parts.filterMap componentOf? ++ (componentOf? entry).toList := by
    intro parts
    rw [List.filterMap_append, List.filterMap_cons, List.filterMap_nil]
    cases componentOf? entry <;> rfl
  have hhead : (text ++ '/' :: entry).head? = text.head? := by
    rw [List.head?_append, List.head?_eq_some_head htext, Option.some_or]
  by_cases habsolute : text.head? = some '/'
  · obtain ⟨rest, rfl⟩ := List.head?_eq_some_iff.mp habsolute
    rw [List.cons_append] at hsegments ⊢
    rw [componentsOf_separator, hsegments, hlonger, componentsOf_separator, List.cons_append]
  · obtain ⟨first, parts, hparts⟩ := List.exists_cons_of_ne_nil (segments_ne_nil text)
    rw [hparts, List.cons_append] at hsegments
    have hlongerHead : (text ++ '/' :: entry).head? ≠ some '/' := hhead ▸ habsolute
    by_cases hfirst : first = ['.']
    · subst hfirst
      rw [componentsOf_current hlongerHead hsegments, hlonger,
        componentsOf_current habsolute hparts, List.cons_append]
    · rw [componentsOf_of_ne hlongerHead hsegments hfirst,
        componentsOf_of_ne habsolute hparts hfirst]
      exact hlonger (first :: parts)

/-- An entry adds its component to those of the directory, however that is spelled. -/
theorem components_join {directory : Path} {entry : String} (hentry : IsEntryName entry)
    {component : Component} (hcomponent : componentOf? entry.toList = some component) :
    (directory.join entry).components = directory.components ++ [component] := by
  have hhead := head?_ne_of_isEntryName hentry
  have hown : entry.toList ≠ ['.'] := by
    intro hdot
    simp [hdot, componentOf?] at hcomponent
  have hsegments : segments entry.toList = [entry.toList] := segments_of_not_mem hentry.2
  have hadded : ∀ text : List Char, text ≠ [] →
      componentsOf (text ++ '/' :: entry.toList) = componentsOf text ++ [component] := by
    intro text htext
    rw [componentsOf_append_separator htext hentry.2, hcomponent, Option.toList_some]
  rw [join, if_neg hhead]
  rcases List.eq_nil_or_concat directory.text.toList with hempty | ⟨front, last, hlast⟩
  · rw [if_pos (by simp [hempty]), components, components, String.toList_append, hempty,
      List.nil_append, componentsOf_of_ne hhead hsegments hown, List.filterMap_cons_some hcomponent]
    rfl
  rw [List.concat_eq_append] at hlast
  by_cases hends : last = '/'
  · subst hends
    rw [if_pos (by simp [hlast]), components, components, String.toList_append, hlast,
      List.append_assoc, List.singleton_append]
    have hnone : componentOf? [] = none := by decide
    cases front with
    | nil =>
        have hroot : componentsOf ['/'] = [.root] := by decide
        rw [List.nil_append, List.nil_append, hroot, componentsOf_separator, segments, hsegments,
          List.filterMap_cons_none hnone, List.filterMap_cons_some hcomponent]
        rfl
    | cons char front =>
        rw [hadded _ (List.cons_ne_nil char front),
          componentsOf_append_separator (List.cons_ne_nil char front) List.not_mem_nil, hnone,
          Option.toList_none, List.append_nil]
  · rw [if_neg (by simpa [hlast] using hends), components, components, String.toList_append,
      String.toList_append, List.append_assoc]
    exact hadded directory.text.toList (by simp [hlast])

example : SamePlace ((Path.mk "/dev//.").join "video0") ⟨"/dev/video0/"⟩ := by decide

/-! ### Paths that end in a decimal -/

section Decimals

variable (directory : Path) (front : String)

theorem exists_lead_join_decimal :
    ∃ lead : String, ∀ number,
      directory.join (front ++ Decimal.text number) = ⟨lead ++ Decimal.text number⟩ := by
  obtain ⟨lead, hlead⟩ := directory.exists_lead_join_append front
  refine ⟨lead, fun number => hlead _ ?_⟩
  rw [Decimal.text, String.toList_ofList]
  exact fun hhead =>
    Decimal.not_mem_digits (by decide) number (List.mem_of_head? hhead)

theorem getLast?_append_digits (lead : List Char) (number : UInt32) :
    ∃ char, (lead ++ Decimal.digits number).getLast? = some char ∧ char.isDigit = true := by
  have hlast := List.getLast?_eq_some_getLast (Decimal.digits_ne_nil number)
  refine ⟨(Decimal.digits number).getLast (Decimal.digits_ne_nil number), ?_,
    Decimal.isDigit_of_mem_digits (List.getLast_mem _)⟩
  rw [List.getLast?_append, hlast, Option.some_or]

theorem exists_getLast?_components_join :
    ∃ last : List Char, ∀ number,
      (directory.join (front ++ Decimal.text number)).components.getLast? =
        some (.named (last ++ Decimal.digits number)) := by
  obtain ⟨lead, hlead⟩ := directory.exists_lead_join_decimal front
  obtain ⟨segments, last, hsegments⟩ := exists_segments_append lead.toList
  -- the last segment ends in a digit, so it is neither empty nor dots
  refine ⟨last, ?_⟩
  intro number
  obtain ⟨char, hlast, hdigit⟩ := getLast?_append_digits last number
  have hnamed : componentOf? (last ++ Decimal.digits number) =
      some (.named (last ++ Decimal.digits number)) := by
    refine componentOf?_eq_named hlast ?_
    rintro rfl
    exact absurd hdigit (by decide)
  rw [hlead number, components, String.toList_append, Decimal.text, String.toList_ofList]
  exact getLast?_componentsOf (hsegments _ (Decimal.not_mem_digits (by decide) number)) hnamed

variable {directory front}

theorem eq_of_samePlace_join {left right : UInt32}
    (hplace : SamePlace (directory.join (front ++ Decimal.text left))
      (directory.join (front ++ Decimal.text right))) : left = right := by
  obtain ⟨last, hlast⟩ := directory.exists_getLast?_components_join front
  have hcomponents := (hlast left).symm.trans ((congrArg List.getLast? hplace).trans (hlast right))
  rw [Option.some.injEq, Component.named.injEq] at hcomponents
  exact Decimal.digits_injective (List.append_cancel_left hcomponents)

end Decimals

end Path

namespace DeviceNode

variable {directory sysfsRoot : Path} {lead name other : String} {left right : DeviceNode}

theorem components_nameAttribute (hnamed : named? directory lead name = some left) :
    (left.nameAttribute sysfsRoot).components =
      (sysfsRoot.join (lead ++ Decimal.text left.suffix)).components ++
        [.named "name".toList] := by
  rw [nameAttribute, name_of_named? hnamed]
  exact Path.components_join (by decide) (by decide)

theorem suffix_eq_of_samePlace (hleft : named? directory lead name = some left)
    (hright : named? directory lead other = some right)
    (hplace : left.path.SamePlace right.path) : left.suffix = right.suffix := by
  rw [path_of_named? hleft, path_of_named? hright] at hplace
  exact Path.eq_of_samePlace_join hplace

theorem suffix_eq_of_samePlace_nameAttribute (hleft : named? directory lead name = some left)
    (hright : named? directory lead other = some right)
    (hplace : (left.nameAttribute sysfsRoot).SamePlace (right.nameAttribute sysfsRoot)) :
    left.suffix = right.suffix := by
  rw [Path.SamePlace, components_nameAttribute hleft, components_nameAttribute hright] at hplace
  exact Path.eq_of_samePlace_join (List.append_cancel_right hplace)

/-- A node's path ends in a digit, an attribute's in a letter. -/
theorem not_samePlace_nameAttribute (hleft : named? directory lead name = some left)
    (hright : named? directory lead other = some right) :
    ¬ left.path.SamePlace (right.nameAttribute sysfsRoot) := by
  intro hplace
  obtain ⟨last, hlast⟩ := directory.exists_getLast?_components_join lead
  obtain ⟨char, hchar, hdigit⟩ := Path.getLast?_append_digits last left.suffix
  have hcomponents := congrArg List.getLast? hplace
  rw [path_of_named? hleft, hlast, components_nameAttribute hright, List.getLast?_concat,
    Option.some.injEq, Path.Component.named.injEq] at hcomponents
  rw [hcomponents] at hchar
  obtain rfl : 'e' = char := Option.some.inj hchar
  exact absurd hdigit (by decide)

end DeviceNode

end CameraHotplug
