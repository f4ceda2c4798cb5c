import CollectionProfile.Proofs.Markup.Place
import Mathlib.Data.List.Induction
import Mathlib.Data.List.Infix

/-!
# Addresses

Elements of a document may be equal and still stand in different places, so which element is which
is told by its address: the number of the node to go into at each step, from outside. In
lexicographic order addresses are in document order, and the elements around an element stand at
the fronts of its address (`mem_around_iff`). `map_at?_ofNodes` says that a walk meets the elements
at the addresses of a run of nodes, each once, in document order.
-/

namespace CollectionProfile.Markup

/-- Where an element stands in a run of nodes. -/
abbrev Address := List Nat

namespace Address

mutual

/-- The addresses of the elements in the node with the given number. -/
def ofNode (number : Nat) : Node → List Address
  | .element _ _ children => [number] :: (ofNodes 0 children).map (number :: ·)
  | .text _ | .comment _ | .instruction _ _ => []

/-- The addresses of the elements in a run of nodes that are numbered from the given number on. -/
def ofNodes (number : Nat) : List Node → List Address
  | [] => []
  | node :: rest => ofNode number node ++ ofNodes (number + 1) rest

end

/-- The first address is that of an element around the one at the second. -/
def IsAround (outer address : Address) : Prop := outer <+: address ∧ outer ≠ address

end Address

/-- The element that is the node with the given number, if that is one. -/
def Node.elementAt? (nodes : List Node) (number : Nat) : Option Element :=
  nodes[number]?.bind Node.element?

/-- The place at an address in a run of nodes that has the elements `around` around it. -/
def Place.at? (around : List Element) (nodes : List Node) : Address → Option Place
  | [] => none
  | [number] => (Node.elementAt? nodes number).map (⟨·, around⟩)
  | number :: next :: rest =>
    (Node.elementAt? nodes number).bind fun owner =>
      at? (owner :: around) owner.children (next :: rest)

/-- The addresses of the places in a run of nodes that a search selects. -/
def Address.selected (nodes : List Node) (select : Place → Bool) : List Address :=
  (ofNodes 0 nodes).filter fun address => (Place.at? [] nodes address).any select

/-- The element at an address in a document. -/
def Document.elementAt? (document : Document) (address : Address) : Option Element :=
  (Place.at? [] document.nodes address).map (·.element)

/-- The element at the address has the name. -/
def Document.IsNamed (document : Document) (address : Address) (name : String) : Prop :=
  ∃ element, document.elementAt? address = some element ∧ element.tag = name

/-! ### Steps of an address -/

theorem at?_cons {around : List Element} {nodes : List Node} {number : Nat} {address : Address}
    (h : address ≠ []) :
    Place.at? around nodes (number :: address)
      = (Node.elementAt? nodes number).bind fun owner =>
          Place.at? (owner :: around) owner.children address := by
  cases address with
  | nil => exact absurd rfl h
  | cons next rest => rw [Place.at?]

theorem ne_nil_of_at? {around : List Element} {nodes : List Node} {address : Address}
    {place : Place} (h : Place.at? around nodes address = some place) : address ≠ [] := by
  rintro rfl
  cases h

/-- An address below an element leads from that element on. -/
theorem at?_append {around : List Element} {nodes : List Node} {outer inner : Address}
    (houter : outer ≠ []) (hinner : inner ≠ []) :
    Place.at? around nodes (outer ++ inner)
      = (Place.at? around nodes outer).bind fun owner =>
          Place.at? (owner.element :: owner.around) owner.element.children inner := by
  induction outer generalizing around nodes with
  | nil => exact absurd rfl houter
  | cons number rest ih =>
    rw [List.cons_append]
    by_cases hrest : rest = []
    · subst hrest
      rw [List.nil_append, at?_cons hinner, Place.at?, Option.bind_map]
      rfl
    · rw [at?_cons (List.append_ne_nil_of_left_ne_nil hrest _), at?_cons hrest]
      cases Node.elementAt? nodes number with
      | none => rfl
      | some owner => exact ih hrest

/-- What is around a run of nodes makes no other difference to the place at an address. -/
theorem at?_append_around (inner outer : List Element) (nodes : List Node) (address : Address) :
    Place.at? (inner ++ outer) nodes address
      = (Place.at? inner nodes address).map (·.within outer) := by
  induction address generalizing inner nodes with
  | nil => rfl
  | cons number rest ih =>
    by_cases hrest : rest = []
    · subst hrest
      rw [Place.at?, Place.at?, Option.map_map]
      rfl
    · rw [at?_cons hrest, at?_cons hrest]
      cases Node.elementAt? nodes number with
      | none => rfl
      | some owner => exact ih (owner :: inner) owner.children

namespace Address

theorem isAround_append_singleton_iff {outer address : Address} {number : Nat} :
    IsAround outer (address ++ [number]) ↔ outer = address ∨ IsAround outer address := by
  rw [IsAround, List.prefix_concat_iff, IsAround]
  constructor
  · rintro ⟨rfl | hfront, hne⟩
    · exact absurd rfl hne
    · by_cases h : outer = address
      · exact .inl h
      · exact .inr ⟨hfront, h⟩
  · have hlonger : ∀ front : Address, front <+: address → front ≠ address ++ [number] := by
      rintro front hfront rfl
      have hlength := hfront.length_le
      rw [List.length_append, List.length_singleton] at hlength
      omega
    rintro (rfl | ⟨hfront, -⟩)
    · exact ⟨.inr List.prefix_rfl, hlonger outer List.prefix_rfl⟩
    · exact ⟨.inr hfront, hlonger outer hfront⟩

/-- The elements around the place at an address are those at the fronts of the address. -/
theorem mem_around_iff {nodes : List Node} {address : Address} {place : Place}
    (h : Place.at? [] nodes address = some place) {between : Element} :
    between ∈ place.around ↔
      ∃ outer, IsAround outer address ∧
        (Place.at? [] nodes outer).map (·.element) = some between := by
  induction address using List.reverseRecOn generalizing place between with
  | nil => cases h
  | append_singleton address number ih =>
    simp only [isAround_append_singleton_iff]
    by_cases haddress : address = []
    · subst haddress
      obtain ⟨element, -, rfl⟩ := Option.map_eq_some_iff.1 h
      constructor
      · intro hmem
        cases hmem
      · rintro ⟨outer, rfl | ⟨hfront, hne⟩, houter⟩
        · cases houter
        · exact absurd (List.prefix_nil.1 hfront) hne
    · rw [at?_append haddress (List.cons_ne_nil _ _)] at h
      obtain ⟨owner, howner, hinner⟩ := Option.bind_eq_some_iff.1 h
      obtain ⟨element, -, rfl⟩ := Option.map_eq_some_iff.1 hinner
      rw [List.mem_cons, ih howner]
      constructor
      · rintro (rfl | ⟨outer, hround, houter⟩)
        · exact ⟨address, .inl rfl, by rw [howner, Option.map_some]⟩
        · exact ⟨outer, .inr hround, houter⟩
      · rintro ⟨outer, rfl | hround, houter⟩
        · rw [howner, Option.map_some, Option.some.injEq] at houter
          exact .inl houter.symm
        · exact .inr ⟨outer, hround, houter⟩

/-! ### The addresses of a run of nodes -/

theorem exists_cons_of_mem_ofNode {number : Nat} {node : Node} {address : Address}
    (h : address ∈ ofNode number node) : ∃ rest, address = number :: rest := by
  cases node with
  | element name attributes children =>
    rw [ofNode, List.mem_cons, List.mem_map] at h
    rcases h with rfl | ⟨inner, -, rfl⟩
    · exact ⟨[], rfl⟩
    · exact ⟨inner, rfl⟩
  | _ => cases h

theorem exists_cons_of_mem_ofNodes {number : Nat} {nodes : List Node} {address : Address}
    (h : address ∈ ofNodes number nodes) :
    ∃ first rest, number ≤ first ∧ address = first :: rest := by
  induction nodes generalizing number with
  | nil => cases h
  | cons node rest ih =>
    rw [ofNodes, List.mem_append] at h
    rcases h with h | h
    · obtain ⟨inner, rfl⟩ := exists_cons_of_mem_ofNode h
      exact ⟨number, inner, Nat.le_refl number, rfl⟩
    · obtain ⟨first, inner, hle, rfl⟩ := ih h
      exact ⟨first, inner, by omega, rfl⟩

theorem ne_nil_of_mem_ofNodes {number : Nat} {nodes : List Node} {address : Address}
    (h : address ∈ ofNodes number nodes) : address ≠ [] := by
  obtain ⟨first, rest, -, rfl⟩ := exists_cons_of_mem_ofNodes h
  exact List.cons_ne_nil _ _

mutual

theorem pairwise_ofNode (number : Nat) (node : Node) : (ofNode number node).Pairwise (· < ·) := by
  match node with
  | .element name attributes children =>
    rw [ofNode, List.pairwise_cons, List.pairwise_map]
    constructor
    · intro address haddress
      obtain ⟨inner, hinner, rfl⟩ := List.mem_map.1 haddress
      obtain ⟨first, rest, -, rfl⟩ := exists_cons_of_mem_ofNodes hinner
      exact List.cons_lt_cons_iff.2 (.inr ⟨rfl, List.nil_lt_cons first rest⟩)
    · apply (pairwise_ofNodes 0 children).imp
      intro address address' hlt
      exact List.cons_lt_cons_iff.2 (.inr ⟨rfl, hlt⟩)
  | .text _ | .comment _ | .instruction _ _ => exact .nil

/-- The addresses of a run of nodes stand in document order. -/
theorem pairwise_ofNodes (number : Nat) (nodes : List Node) :
    (ofNodes number nodes).Pairwise (· < ·) := by
  match nodes with
  | [] => exact .nil
  | node :: rest =>
    rw [ofNodes, List.pairwise_append]
    refine ⟨pairwise_ofNode number node, pairwise_ofNodes (number + 1) rest, ?_⟩
    intro address haddress address' haddress'
    obtain ⟨inner, rfl⟩ := exists_cons_of_mem_ofNode haddress
    obtain ⟨first, inner', hle, rfl⟩ := exists_cons_of_mem_ofNodes haddress'
    exact List.cons_lt_cons_iff.2 (.inl (by omega))

end

mutual

theorem map_at?_ofNode (around : List Element) (front : List Node) (node : Node)
    (back : List Node) :
    (ofNode front.length node).map (Place.at? around (front ++ node :: back))
      = (Place.ofNode around node).map some := by
  match node with
  | .element name attributes children =>
    have helement : Node.elementAt? (front ++ .element name attributes children :: back)
        front.length = some ⟨name, attributes, children⟩ := by
      rw [Node.elementAt?, List.getElem?_append_right (Nat.le_refl _), Nat.sub_self]
      rfl
    rw [ofNode, Place.ofNode, List.map_cons, List.map_cons, List.map_map, Place.at?, helement,
      Option.map_some]
    have hbelow := map_at?_ofNodes (⟨name, attributes, children⟩ :: around) [] children
    rw [← hbelow]
    apply congrArg (List.cons _)
    apply List.map_congr_left
    intro address haddress
    rw [Function.comp_apply, at?_cons (ne_nil_of_mem_ofNodes haddress), helement]
    rfl
  | .text _ | .comment _ | .instruction _ _ => rfl

/-- At the addresses of a run of nodes stand the elements that a walk meets. -/
theorem map_at?_ofNodes (around : List Element) (front nodes : List Node) :
    (ofNodes front.length nodes).map (Place.at? around (front ++ nodes))
      = (Place.ofNodes around nodes).map some := by
  match nodes with
  | [] => rfl
  | node :: rest =>
    have hrest := map_at?_ofNodes around (front ++ [node]) rest
    rw [List.length_append, List.length_singleton, List.append_assoc, List.singleton_append] at hrest
    rw [ofNodes, Place.ofNodes, List.map_append, List.map_append, map_at?_ofNode, hrest]

end

theorem mem_ofNodes_of_mem_ofNode {nodes : List Node} {i : Nat} {node : Node}
    (hnode : nodes[i]? = some node) {number : Nat} {address : Address}
    (h : address ∈ ofNode (number + i) node) : address ∈ ofNodes number nodes := by
  induction nodes generalizing i number with
  | nil => cases hnode
  | cons first rest ih =>
    rw [ofNodes, List.mem_append]
    cases i with
    | zero =>
      obtain rfl := Option.some.inj hnode
      exact .inl h
    | succ i => exact .inr (ih hnode (by rwa [Nat.add_assoc, Nat.add_comm 1]))

theorem mem_ofNodes_of_at? {around : List Element} {nodes : List Node} {address : Address}
    {place : Place} (h : Place.at? around nodes address = some place) :
    address ∈ ofNodes 0 nodes := by
  induction address generalizing around nodes with
  | nil => cases h
  | cons number rest ih =>
    have hown : ∀ owner, Node.elementAt? nodes number = some owner →
        (rest = [] ∨ rest ∈ ofNodes 0 owner.children) → number :: rest ∈ ofNodes 0 nodes := by
      intro owner howner hrest
      obtain ⟨node, hnode, helement⟩ := Option.bind_eq_some_iff.1 howner
      apply mem_ofNodes_of_mem_ofNode hnode
      cases node with
      | element name attributes children =>
        obtain rfl := Option.some.inj helement
        rw [Nat.zero_add, ofNode, List.mem_cons, List.mem_map]
        rcases hrest with rfl | hrest
        · exact .inl rfl
        · exact .inr ⟨rest, hrest, rfl⟩
      | _ => cases helement
    by_cases hrest : rest = []
    · subst hrest
      obtain ⟨owner, howner, -⟩ := Option.map_eq_some_iff.1 h
      exact hown owner howner (.inl rfl)
    · rw [at?_cons hrest] at h
      obtain ⟨owner, howner, hinner⟩ := Option.bind_eq_some_iff.1 h
      exact hown owner howner (.inr (ih hinner))

/-! ### Searches -/

theorem mem_selected_iff {nodes : List Node} {select : Place → Bool} {address : Address} :
    address ∈ selected nodes select ↔
      ∃ place, Place.at? [] nodes address = some place ∧ select place = true := by
  rw [selected, List.mem_filter, Option.any_eq_true_iff_get]
  constructor
  · rintro ⟨-, hsome, hselect⟩
    exact ⟨_, (Option.some_get hsome).symm, hselect⟩
  · rintro ⟨place, hplace, hselect⟩
    refine ⟨mem_ofNodes_of_at? hplace, ?_⟩
    simp [hplace, hselect]

theorem pairwise_selected (nodes : List Node) (select : Place → Bool) :
    (selected nodes select).Pairwise (· < ·) :=
  (pairwise_ofNodes 0 nodes).filter _

/-- A search returns the places at the selected addresses. -/
theorem map_at?_selected (nodes : List Node) (select : Place → Bool) :
    (selected nodes select).map (Place.at? [] nodes)
      = ((Place.ofNodes [] nodes).filter select).map some := by
  have hwalk : (ofNodes 0 nodes).map (Place.at? [] nodes) = (Place.ofNodes [] nodes).map some :=
    map_at?_ofNodes [] [] nodes
  have hselected := congrArg (List.filter (Option.any select)) hwalk
  rw [List.filter_map, List.filter_map] at hselected
  exact hselected

end Address

end CollectionProfile.Markup
