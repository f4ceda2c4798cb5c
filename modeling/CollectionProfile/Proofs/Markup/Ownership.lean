import CollectionProfile.Proofs.Markup.Address
import Mathlib.Data.List.Nodup

/-!
# Who owns an element

An element that stands in elements of some name is owned by the nearest of them. A search for what
an element owns returns just that (`map_elementAt?_owned`), so that the searches of all elements of
the name share out among them whatever stands in such elements (`exists_isSharing`).
-/

namespace CollectionProfile.Markup

namespace Document

/-- The element at `owner` is the nearest of the name `tag` around the element at `address`. -/
structure Owns (document : Document) (tag : String) (owner address : Address) : Prop where
  around : Address.IsAround owner address
  named : document.IsNamed owner tag
  nearest : ∀ other, Address.IsAround other address → document.IsNamed other tag → other <+: owner

/-- The addresses `owners` are those of the elements named `tag`, and `found` tells for each of them
where the elements stand that its search for `name` returns. -/
structure IsSharing (document : Document) (tag name : String) (owners : List Address)
    (found : Address → List Address) : Prop where
  owners_mem : ∀ owner, owner ∈ owners ↔ document.IsNamed owner tag
  owners_order : owners.Pairwise (· < ·)
  owners_eq : owners.map document.elementAt?
    = (document.placesNamed tag).map fun place => some place.element
  /-- A search returns what its element owns. -/
  found_mem : ∀ owner ∈ owners, ∀ address,
    address ∈ found owner ↔ document.IsNamed address name ∧ document.Owns tag owner address
  found_order : ∀ owner ∈ owners, (found owner).Pairwise (· < ·)
  found_eq : ∀ owner ∈ owners, ∀ element, document.elementAt? owner = some element →
    (found owner).map document.elementAt? = (element.owned name).map some
  /-- No element is returned twice. -/
  nodup : (owners.flatMap found).Nodup
  /-- All searches together return each element of the name that stands in one named `tag`. -/
  complete : ∀ address, address ∈ owners.flatMap found ↔ document.IsNamed address name ∧
    ∃ outer, Address.IsAround outer address ∧ document.IsNamed outer tag

variable {document : Document} {tag name : String}

theorem IsNamed.ne_nil {address : Address} (h : document.IsNamed address tag) : address ≠ [] := by
  obtain ⟨element, helement, -⟩ := h
  obtain ⟨place, hplace, -⟩ := Option.map_eq_some_iff.1 helement
  exact ne_nil_of_at? hplace

theorem Owns.unique {owner owner' address : Address} (h : document.Owns tag owner address)
    (h' : document.Owns tag owner' address) : owner = owner' := by
  have hfront : owner <+: owner' := h'.nearest owner h.around h.named
  have hfront' : owner' <+: owner := h.nearest owner' h'.around h'.named
  exact hfront.eq_of_length_le hfront'.length_le

/-- Whatever stands in elements of a name has a nearest one of them. -/
theorem exists_owns {address outer : Address} (houter : Address.IsAround outer address)
    (hnamed : document.IsNamed outer tag) : ∃ owner, document.Owns tag owner address := by
  induction address using List.reverseRecOn generalizing outer with
  | nil => exact absurd (List.prefix_nil.1 houter.1) houter.2
  | append_singleton address number ih =>
    by_cases haddress : document.IsNamed address tag
    · refine ⟨address, Address.isAround_append_singleton_iff.2 (.inl rfl), haddress, ?_⟩
      intro other hother _
      rcases Address.isAround_append_singleton_iff.1 hother with rfl | hother
      · exact List.prefix_rfl
      · exact hother.1
    · rcases Address.isAround_append_singleton_iff.1 houter with rfl | houter
      · exact absurd hnamed haddress
      · obtain ⟨owner, howner⟩ := ih houter hnamed
        refine ⟨owner, Address.isAround_append_singleton_iff.2 (.inr howner.around),
          howner.named, ?_⟩
        intro other hother hothernamed
        rcases Address.isAround_append_singleton_iff.1 hother with rfl | hother
        · exact absurd hothernamed haddress
        · exact howner.nearest other hother hothernamed

/-! ### One search -/

/-- Where the elements stand that the search of the element at `owner` returns. -/
def ownedAddresses (document : Document) (name : String) (owner : Address) : List Address :=
  match document.elementAt? owner with
  | some element =>
    (Address.selected element.children fun inner =>
      inner.tag = name && inner.around.all (·.tag ≠ element.tag)).map (owner ++ ·)
  | none => []

section Owner

variable {owner : Address} {element : Element}

theorem elementAt?_append (howner : document.elementAt? owner = some element) {inner : Address}
    (hinner : inner ≠ []) :
    document.elementAt? (owner ++ inner)
      = (Place.at? [] element.children inner).map (·.element) := by
  have hne : owner ≠ [] := IsNamed.ne_nil ⟨element, howner, rfl⟩
  obtain ⟨place, hplace, rfl⟩ := Option.map_eq_some_iff.1 howner
  have haround := at?_append_around [] (place.element :: place.around) place.element.children inner
  rw [List.nil_append] at haround
  rw [elementAt?, at?_append hne hinner, hplace, Option.bind_some, haround, Option.map_map]
  rfl

theorem pairwise_ownedAddresses (howner : document.elementAt? owner = some element) :
    (document.ownedAddresses name owner).Pairwise (· < ·) := by
  rw [ownedAddresses, howner, List.pairwise_map]
  apply (Address.pairwise_selected _ _).imp
  intro address address' hlt
  exact List.append_left_lt hlt

theorem map_elementAt?_ownedAddresses (howner : document.elementAt? owner = some element) :
    (document.ownedAddresses name owner).map document.elementAt?
      = (element.owned name).map some := by
  have hreturned := congrArg (List.map (Option.map Place.element))
    (Address.map_at?_selected element.children fun inner =>
      inner.tag = name && inner.around.all (·.tag ≠ element.tag))
  rw [ownedAddresses, howner, List.map_map, Element.owned, List.map_map]
  rw [List.map_map, List.map_map] at hreturned
  refine Eq.trans ?_ hreturned
  apply List.map_congr_left
  intro inner hinner
  obtain ⟨place, hplace, -⟩ := Address.mem_selected_iff.1 hinner
  exact elementAt?_append howner (ne_nil_of_at? hplace)

/-- The way from the owner to a place below it is clear of a name when no element of the name is
nearer to the place than the owner. -/
theorem forall_around_iff (howner : document.elementAt? owner = some element) {inner : Address}
    {place : Place} (hplace : Place.at? [] element.children inner = some place) :
    (∀ between ∈ place.around, between.tag ≠ tag) ↔
      ∀ other, Address.IsAround other (owner ++ inner) → document.IsNamed other tag →
        other <+: owner := by
  constructor
  · intro hclear other hother hnamed
    rcases List.prefix_or_prefix_of_prefix hother.1 (List.prefix_append owner inner) with
      hfront | ⟨between, rfl⟩
    · exact hfront
    · by_cases hbetween : between = []
      · rw [hbetween, List.append_nil]
      · obtain ⟨found, hfound, hfoundtag⟩ := hnamed
        rw [elementAt?_append howner hbetween] at hfound
        have haround : Address.IsAround between inner := by
          refine ⟨(List.prefix_append_right_inj owner).1 hother.1, ?_⟩
          rintro rfl
          exact hother.2 rfl
        have hmem : found ∈ place.around :=
          (Address.mem_around_iff hplace).2 ⟨between, haround, hfound⟩
        exact absurd hfoundtag (hclear found hmem)
  · intro hnearest between hmem htag
    obtain ⟨outer, haround, houter⟩ := (Address.mem_around_iff hplace).1 hmem
    have hne : outer ≠ [] := by
      rintro rfl
      cases houter
    have hfront : owner ++ outer <+: owner := by
      apply hnearest
      · refine ⟨(List.prefix_append_right_inj owner).2 haround.1, ?_⟩
        intro heq
        exact haround.2 (List.append_cancel_left heq)
      · exact ⟨between, (elementAt?_append howner hne).trans houter, htag⟩
    have hlength := hfront.length_le
    rw [List.length_append] at hlength
    exact hne (List.eq_nil_of_length_eq_zero (by omega))

/-- A search returns an element exactly when its own is the nearest of the name around it. -/
theorem mem_ownedAddresses_iff (howner : document.elementAt? owner = some element)
    (htag : element.tag = tag) {address : Address} :
    address ∈ document.ownedAddresses name owner ↔
      document.IsNamed address name ∧ document.Owns tag owner address := by
  rw [ownedAddresses, howner, List.mem_map]
  simp only [Address.mem_selected_iff, Bool.and_eq_true, decide_eq_true_iff, List.all_eq_true, htag]
  constructor
  · rintro ⟨inner, ⟨place, hplace, hname, hclear⟩, rfl⟩
    have hne : inner ≠ [] := ne_nil_of_at? hplace
    have hnamed : document.IsNamed (owner ++ inner) name := by
      refine ⟨place.element, ?_, hname⟩
      rw [elementAt?_append howner hne, hplace, Option.map_some]
    refine ⟨hnamed, ⟨List.prefix_append owner inner, ?_⟩, ⟨element, howner, htag⟩,
      (forall_around_iff howner hplace).1 hclear⟩
    intro heq
    exact hne (List.self_eq_append_right.1 heq)
  · rintro ⟨⟨found, hfound, hname⟩, howns⟩
    obtain ⟨inner, rfl⟩ := howns.around.1
    have hne : inner ≠ [] := by
      rintro rfl
      exact howns.around.2 (List.append_nil owner).symm
    rw [elementAt?_append howner hne] at hfound
    obtain ⟨place, hplace, rfl⟩ := Option.map_eq_some_iff.1 hfound
    exact ⟨inner, ⟨place, hplace, hname, (forall_around_iff howner hplace).2 howns.nearest⟩, rfl⟩

end Owner

/-! ### All searches -/

theorem mem_selected_iff_isNamed {address : Address} :
    address ∈ Address.selected document.nodes (·.tag = tag) ↔ document.IsNamed address tag := by
  rw [Address.mem_selected_iff, IsNamed]
  simp only [elementAt?, Option.map_eq_some_iff, decide_eq_true_iff]
  constructor
  · rintro ⟨place, hplace, htag⟩
    exact ⟨place.element, ⟨place, hplace, rfl⟩, htag⟩
  · rintro ⟨-, ⟨place, hplace, rfl⟩, htag⟩
    exact ⟨place, hplace, htag⟩

/-- For every two names, the elements of the one that stand in elements of the other are shared out
among these by their searches. -/
theorem exists_isSharing (document : Document) (tag name : String) :
    ∃ owners found, document.IsSharing tag name owners found := by
  let owners := Address.selected document.nodes (·.tag = tag)
  have hmem : ∀ owner ∈ owners, ∀ address, address ∈ document.ownedAddresses name owner ↔
      document.IsNamed address name ∧ document.Owns tag owner address := by
    intro owner howner address
    obtain ⟨element, helement, htag⟩ := mem_selected_iff_isNamed.1 howner
    exact mem_ownedAddresses_iff helement htag
  have horder : ∀ owner ∈ owners, (document.ownedAddresses name owner).Pairwise (· < ·) := by
    intro owner howner
    obtain ⟨element, helement, -⟩ := mem_selected_iff_isNamed.1 howner
    exact pairwise_ownedAddresses helement
  refine ⟨owners, document.ownedAddresses name, ?_⟩
  constructor
  case owners_mem => exact fun _ => mem_selected_iff_isNamed
  case owners_order => exact Address.pairwise_selected _ _
  case owners_eq =>
    have hselected := congrArg (List.map (Option.map Place.element))
      (Address.map_at?_selected document.nodes (·.tag = tag))
    rw [List.map_map, List.map_map] at hselected
    exact hselected
  case found_mem => exact hmem
  case found_order => exact horder
  case found_eq =>
    intro owner _ element helement
    exact map_elementAt?_ownedAddresses helement
  case nodup =>
    have hne : ∀ {first second : Address}, first < second → first ≠ second := by
      rintro first _ hlt rfl
      exact List.lt_irrefl first hlt
    rw [List.nodup_flatMap]
    constructor
    · intro owner howner
      exact (horder owner howner).imp hne
    · apply (Address.pairwise_selected document.nodes (·.tag = tag)).imp_of_mem
      intro owner owner' howner howner' hlt address haddress haddress'
      have howns := ((hmem owner howner address).1 haddress).2
      have howns' := ((hmem owner' howner' address).1 haddress').2
      exact hne hlt (howns.unique howns')
  case complete =>
    intro address
    rw [List.mem_flatMap]
    constructor
    · rintro ⟨owner, howner, haddress⟩
      obtain ⟨hnamed, howns⟩ := (hmem owner howner address).1 haddress
      exact ⟨hnamed, owner, howns.around, howns.named⟩
    · rintro ⟨hnamed, outer, haround, houter⟩
      obtain ⟨owner, howns⟩ := exists_owns haround houter
      have howner : owner ∈ owners := mem_selected_iff_isNamed.2 howns.named
      exact ⟨owner, howner, (hmem owner howner address).2 ⟨hnamed, howns⟩⟩

/-- The label of a nested element is not found again from the outer one. -/
example :
    let node (tag : String) (children : List Node) := Node.element ⟨none, tag⟩ [] children
    let document : Document := ⟨[.text " ", node "element" [node "label" [],
      node "element" [node "label" []], node "labels" [node "label" []]]]⟩
    document.ownedAddresses "label" [1] = [[1, 0], [1, 2, 0]] ∧
      document.ownedAddresses "label" [1, 1] = [[1, 1, 0]] ∧
      document.ownedAddresses "element" [1] = [[1, 1]] := by
  decide

end Document

end CollectionProfile.Markup
