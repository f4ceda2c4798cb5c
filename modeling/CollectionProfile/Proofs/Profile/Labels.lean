import CollectionProfile.Proofs.Profile.Declared

/-!
# The labels of a metadata element

The labels of a metadata element are resolved in one pass over two slots. The name slot follows the
policy of `Locale.resolveText` on the names that the labels carry (`resolveLabels_name`). The
description slot has no policy of its own: an English label that finds no name takes both slots, so
the last French description stays unless such a label comes after it (`description_of_last_french`).
-/

namespace CollectionProfile.MetadataElement

open Markup (Element Node)

/-- The rank of the locale that a label is in. -/
def rank (label : Element) : Locale.Rank := .ofTag (label.attribute? "locale")

/-- The name that a label carries, with the locale of the label. -/
def nameOf? (label : Element) : Option (Locale.Candidate String) :=
  (label.firstText? "name").map (⟨label.attribute? "locale", ·⟩)

/-- The slots that a run of labels resolves to. -/
def resolveAll (labels : List Element) : LabelSlots :=
  labels.foldl (fun slots label => slots.absorb (rank label) (.ofLabel label)) {}

/-- The name that a run of labels resolves to by the policy for single texts. -/
def resolvedName (labels : List Element) : String :=
  Locale.resolveText .ignore (labels.filterMap nameOf?)

theorem resolveLabels_eq (element : Element) :
    resolveLabels element = resolveAll (labels element) := rfl

theorem resolveAll_append_singleton (before : List Element) (label : Element) :
    resolveAll (before ++ [label])
      = (resolveAll before).absorb (rank label) (.ofLabel label) := by
  rw [resolveAll, List.foldl_append]
  rfl

/-! ### Names -/

theorem LabelSlots.hasName_eq (slots : LabelSlots) :
    slots.hasName = !slots.name.all (· = "") := by
  cases h : slots.name <;> simp [hasName, h]

theorem name_absorb_of_unnamed {label : Element} (h : nameOf? label = none) (slots : LabelSlots) :
    (slots.absorb (rank label) (.ofLabel label)).name = slots.name := by
  have hname : (LabelSlots.ofLabel label).name = none := Option.map_eq_none_iff.1 h
  cases hrank : rank label <;> simp [LabelSlots.absorb, hname]

/-- A label with a name changes the name as one more candidate does. -/
theorem name_absorb_of_named {label : Element} {candidate : Locale.Candidate String}
    (h : nameOf? label = some candidate) (slots : LabelSlots) :
    (slots.absorb (rank label) (.ofLabel label)).name
      = Locale.prefer .ignore (· = "") slots.name candidate := by
  obtain ⟨text, hname, rfl⟩ := Option.map_eq_some_iff.1 h
  have htaken : (LabelSlots.ofLabel label).name = some text := hname
  simp only [LabelSlots.absorb, Locale.prefer, rank, LabelSlots.hasName_eq, htaken]
  cases Locale.Rank.ofTag (label.attribute? "locale") with
  | french => rfl
  | english => cases hopen : slots.name.all (· = "") <;> simp
  | other => simp

theorem name_foldl_absorb (labels : List Element) (slots : LabelSlots) :
    (labels.foldl (fun slots label => slots.absorb (rank label) (.ofLabel label)) slots).name
      = (labels.filterMap nameOf?).foldl (Locale.prefer .ignore (· = "")) slots.name := by
  induction labels generalizing slots with
  | nil => rfl
  | cons label rest ih =>
    rw [List.foldl_cons, ih]
    cases h : nameOf? label with
    | none => rw [name_absorb_of_unnamed h, List.filterMap_cons_none h]
    | some candidate =>
      rw [name_absorb_of_named h, List.filterMap_cons_some h, List.foldl_cons]

theorem name_resolveAll (labels : List Element) :
    (resolveAll labels).name = Locale.pick .ignore (· = "") (labels.filterMap nameOf?) :=
  name_foldl_absorb labels {}

theorem hasName_resolveAll (labels : List Element) :
    (resolveAll labels).hasName = true ↔ resolvedName labels ≠ "" := by
  rw [resolvedName, Locale.resolveText, ← name_resolveAll]
  cases h : (resolveAll labels).name <;> simp [LabelSlots.hasName, h]

/-- The name that the labels of an element resolve to is the text that `Locale.resolveText` picks
among the names they carry, when it passes over other locales. -/
theorem resolveLabels_name (element : Element) :
    (resolveLabels element).name.getD ""
      = Locale.resolveText .ignore ((labels element).filterMap nameOf?) := by
  rw [resolveLabels_eq, name_resolveAll, Locale.resolveText]

/-! ### Descriptions -/

/-- The label takes the description slot from the labels before it without being French: it is
English, carries a name and a description, and finds no name or an empty one. -/
def Displaces (before : List Element) (label : Element) : Prop :=
  rank label = .english ∧ (label.firstText? "name").isSome = true ∧
    (label.firstText? "description").isSome = true ∧ resolvedName before = ""

/-- No label of a run displaces the description resolved before the run or in it. -/
def Undisplaced (before run : List Element) : Prop :=
  ∀ between label after, run = between ++ label :: after → ¬Displaces (before ++ between) label

instance (before : List Element) (label : Element) : Decidable (Displaces before label) :=
  inferInstanceAs (Decidable (_ ∧ _))

theorem undisplaced_nil (before : List Element) : Undisplaced before [] := by
  rintro between label after h
  simp at h

theorem undisplaced_cons_iff {before rest : List Element} {label : Element} :
    Undisplaced before (label :: rest) ↔
      ¬Displaces before label ∧ Undisplaced (before ++ [label]) rest := by
  constructor
  · intro h
    refine ⟨?_, ?_⟩
    · have hfirst := h [] label rest rfl
      rwa [List.append_nil] at hfirst
    · rintro between next after rfl
      have hnext := h (label :: between) next after rfl
      rwa [List.append_cons] at hnext
  · rintro ⟨hfirst, hrest⟩ between next after h
    cases between with
    | nil =>
      obtain ⟨rfl, -⟩ := List.cons.inj h
      rwa [List.append_nil]
    | cons _ between =>
      obtain ⟨rfl, hrun⟩ := List.cons.inj h
      rw [List.append_cons]
      exact hrest between next after hrun

instance decidableUndisplaced (before : List Element) :
    (run : List Element) → Decidable (Undisplaced before run)
  | [] => .isTrue (undisplaced_nil before)
  | label :: rest =>
    have := decidableUndisplaced (before ++ [label]) rest
    decidable_of_iff' _ undisplaced_cons_iff

theorem description_of_french {label : Element} (h : rank label = .french)
    (before : List Element) :
    (resolveAll (before ++ [label])).description
      = (label.firstText? "description").or (resolveAll before).description := by
  rw [resolveAll_append_singleton, h]
  rfl

/-- An English label that finds no name takes both slots. -/
theorem description_of_displaces {before : List Element} {label : Element}
    (h : Displaces before label) :
    (resolveAll (before ++ [label])).description = label.firstText? "description" := by
  obtain ⟨hrank, hname, hdescription, hbefore⟩ := h
  have hopen : (resolveAll before).hasName = false := by
    rw [← Bool.not_eq_true, hasName_resolveAll, ne_eq, not_not]
    exact hbefore
  obtain ⟨text, htext⟩ := Option.isSome_iff_exists.1 hdescription
  rw [resolveAll_append_singleton, hrank]
  simp [LabelSlots.absorb, LabelSlots.ofLabel, hopen, hname, htext]

theorem description_of_not_displaces {before : List Element} {label : Element}
    (hrank : rank label ≠ .french) (h : ¬Displaces before label) :
    (resolveAll (before ++ [label])).description = (resolveAll before).description := by
  rw [resolveAll_append_singleton]
  cases hlabel : rank label with
  | french => exact absurd hlabel hrank
  | other => rfl
  | english =>
    cases hopen : (resolveAll before).hasName with
    | true => simp [LabelSlots.absorb, hopen]
    | false =>
      have hbefore : resolvedName before = "" := by
        simpa [hopen] using (hasName_resolveAll before).not
      cases hname : label.firstText? "name" with
      | none => simp [LabelSlots.absorb, LabelSlots.ofLabel, hname]
      | some name =>
        have hdescription : label.firstText? "description" = none := by
          simpa [Displaces, hlabel, hname, hbefore] using h
        simp [LabelSlots.absorb, LabelSlots.ofLabel, hopen, hname, hdescription]

theorem description_append {before run : List Element}
    (hfrench : ∀ label ∈ run, rank label = .french → label.firstText? "description" = none)
    (h : Undisplaced before run) :
    (resolveAll (before ++ run)).description = (resolveAll before).description := by
  -- By induction on the run: its first label joins the labels before it.
  induction run generalizing before with
  | nil => rw [List.append_nil]
  | cons label rest ih =>
    obtain ⟨hlabel, hrest⟩ := undisplaced_cons_iff.1 h
    have hstep : (resolveAll (before ++ [label])).description
        = (resolveAll before).description := by
      by_cases hrank : rank label = .french
      · rw [description_of_french hrank, hfrench label List.mem_cons_self hrank, Option.none_or]
      · exact description_of_not_displaces hrank hlabel
    rw [List.append_cons, ih (fun next hnext => hfrench next (List.mem_cons_of_mem _ hnext)) hrest,
      hstep]

theorem field?_eq {element : Element} {code : String} (h : element.Carries "code" code) :
    field? element = some (.declare code (element.attributeText "datatype")
      ((resolveLabels element).name.getD "") ((resolveLabels element).description.getD "")) := by
  rw [field?, Markup.Element.filled?_eq_some_iff.2 h]
  rfl

/-- Among the labels of an element `french` is the last French one that carries a description, and
the description is `text`. -/
structure LastFrench (element : Element) (front : List Element) (french : Element)
    (back : List Element) (text : String) : Prop where
  labels_eq : labels element = front ++ french :: back
  rank_eq : rank french = .french
  text_eq : french.firstText? "description" = some text
  none_after : ∀ label ∈ back, rank label = .french → label.firstText? "description" = none

/-- The description of a field is that of the last French label which carries one, unless a label
after it displaces that; then it is the description of the last label which does. -/
theorem description_of_last_french {element french : Element} {front back : List Element}
    {code text : String} (hcode : element.Carries "code" code)
    (h : LastFrench element front french back text) :
    ∃ field, field? element = some field ∧ field.code = code ∧
      (Undisplaced (front ++ [french]) back → field.description = text) ∧
      ∀ between label after, back = between ++ label :: after →
        Displaces (front ++ french :: between) label →
        Undisplaced (front ++ french :: between ++ [label]) after →
        label.firstText? "description" = some field.description := by
  refine ⟨_, field?_eq hcode, rfl, fun hstays => ?_, ?_⟩
  · have hresolved : (resolveLabels element).description = some text := by
      rw [resolveLabels_eq, h.labels_eq, List.append_cons, description_append h.none_after hstays,
        description_of_french h.rank_eq, h.text_eq, Option.some_or]
    simp [Field.declare, hresolved]
  · rintro between label after rfl hdisplaces hstays
    have hafter : ∀ next ∈ after, rank next = .french → next.firstText? "description" = none :=
      fun next hnext => h.none_after next (by simp [hnext])
    have hresolved : (resolveLabels element).description = label.firstText? "description" := by
      rw [resolveLabels_eq, h.labels_eq, ← List.cons_append, ← List.append_assoc,
        List.append_cons, description_append hafter hstays, description_of_displaces hdisplaces]
    obtain ⟨taken, htaken⟩ := Option.isSome_iff_exists.1 hdisplaces.2.2.1
    simp [Field.declare, hresolved, htaken]

/-- An English name keeps a later English label from displacing the French description, and a German
label displaces nothing. -/
theorem description_of_last_french_named :
    let node (tag : String) (attributes : List Markup.Attribute) (children : List Node) :=
      Node.element ⟨none, tag⟩ attributes children
    let label (locale : String) (texts : List Node) : Element :=
      ⟨⟨none, "label"⟩, [⟨⟨none, "locale"⟩, locale⟩], texts⟩
    let name := node "name" [] [.text "N"]
    let description := node "description" [] [.text "D"]
    let french := label "fr" [node "description" [] [.text "Remarque"]]
    let back := [label "de" [name, description], label "en" [name], label "en" [name, description]]
    let element : Element := ⟨⟨none, "metadataElement"⟩, [⟨⟨none, "code"⟩, "note"⟩],
      [node "labels" [] ((french :: back).map (·.toNode))]⟩
    element.Carries "code" "note" ∧ LastFrench element [] french back "Remarque" ∧
      Undisplaced [french] back ∧
      ∃ field, field? element = some field ∧ field.description = "Remarque" := by
  intro node label name description french back element
  have hcode : element.Carries "code" "note" := ⟨rfl, by decide⟩
  have hlast : LastFrench element [] french back "Remarque" := ⟨rfl, rfl, rfl, by decide⟩
  have hstays : Undisplaced [french] back := by decide
  obtain ⟨field, hfield, -, hdescription, -⟩ := description_of_last_french hcode hlast
  exact ⟨hcode, hlast, hstays, field, hfield, hdescription hstays⟩

/-- An English label with both texts displaces a French description that came without a name. -/
theorem french_description_displaced :
    ¬∀ element code front french back text, Element.Carries element "code" code →
      LastFrench element front french back text → text ≠ "" →
      ∃ field, field? element = some field ∧ field.description = text := by
  intro hclaim
  let node (tag : String) (children : List Node) := Node.element ⟨none, tag⟩ [] children
  let french : Element := ⟨⟨none, "label"⟩, [⟨⟨none, "locale"⟩, "fr"⟩],
    [node "description" [.text "Remarque"]]⟩
  let english : Element := ⟨⟨none, "label"⟩, [⟨⟨none, "locale"⟩, "en"⟩],
    [node "name" [.text "Note"], node "description" [.text "Remark"]]⟩
  let element : Element := ⟨⟨none, "metadataElement"⟩, [⟨⟨none, "code"⟩, "note"⟩],
    [node "labels" [french.toNode, english.toNode]]⟩
  have hlast : LastFrench element [] french [english] "Remarque" := ⟨rfl, rfl, rfl, by decide⟩
  obtain ⟨field, hfield, hdescription⟩ :=
    hclaim element "note" [] french [english] "Remarque" ⟨rfl, by decide⟩ hlast (by decide)
  have hfound : (field? element).map (·.description) = some "Remark" := rfl
  rw [hfield, Option.map_some, hdescription] at hfound
  simp at hfound

end CollectionProfile.MetadataElement
