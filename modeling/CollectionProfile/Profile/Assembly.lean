import CollectionProfile.Profile.Offer
import CollectionProfile.Schema.Basic

/-!
# Assembling a schema

The offers of a profile are merged by the precedence of their dialects: a field is taken only while
its table has none of the same code, so the first offer wins. At the end the base tables receive the
fields that they have by nature.
-/

namespace CollectionProfile

/-- The tables that every schema has. -/
def baseTables : List String :=
  ["ca_objects", "ca_entities", "ca_collections", "ca_occurrences", "ca_places",
    "ca_storage_locations", "ca_loans", "ca_movements", "ca_list_items"]

/-- The fields that every base table has by nature, in output order. -/
def intrinsicFields : List Field :=
  [.declare "idno" "Text" "Identifiant" "Identifiant unique",
    .declare "preferred_labels" "Text" "Nom préféré" "Label principal",
    .declare "type_id" "List" "Type" "Type d'enregistrement",
    .declare "access" "Integer" "Accès" "Niveau d'accès",
    .declare "status" "Integer" "Statut" "Statut"]

namespace Tables

/-- The tables after a run of offers, and how many of the offered fields were taken. -/
def mergeOffers (tables : Tables) : List Offer → Tables × Nat
  | [] => (tables, 0)
  | offer :: rest =>
    let (tables, taken) := tables.offer offer.table offer.fields
    let (tables, more) := tables.mergeOffers rest
    (tables, taken + more)

/-- The tables after the offers of one dialect, and how many of the offered fields were taken. -/
def merge (tables : Tables) (extraction : Extraction) : Tables × Nat :=
  tables.mergeOffers extraction.offers

/-- The tables after several extractions in the order given. -/
def mergeAll (tables : Tables) (extractions : List Extraction) : Tables :=
  extractions.foldl (fun tables extraction => (tables.merge extraction).1) tables

/-- The tables with all base tables among them, whose intrinsic fields come first unless a profile
supplied them itself. -/
def withIntrinsics (tables : Tables) : Tables :=
  baseTables.foldl (fun tables name => (tables.offerFront name intrinsicFields).1) tables

end Tables

/-- Extractions in the order of precedence of their dialects. Those of one dialect keep their
order. -/
def byPrecedence (extractions : List Extraction) : List Extraction :=
  extractions.mergeSort fun a b => a.dialect.precedence ≤ b.dialect.precedence

/-- The schema of a profile, from what was extracted of it. -/
def Schema.assemble (extractions : List Extraction) (relationships : List Relationship)
    (vocabulary : Vocabulary) : Schema where
  tables := (Tables.empty.mergeAll (byPrecedence extractions)).withIntrinsics
  relationships
  vocabulary

end CollectionProfile
