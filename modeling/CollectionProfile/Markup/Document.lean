import CollectionProfile.Markup.Content
import CollectionProfile.Markup.Prolog

/-!
# Reading a document

`Document.ofText` reads a whole document: the prolog, the root element, and what may follow it.
-/

namespace CollectionProfile.Markup

/-- The document with a written form. -/
def Document.ofText (text : String) : Except Fault Document := do
  let (entities, rest) ← Prolog.scan text.toList
  let reading := Reading.ofEntities entities Expansion.maxDepth false
  let ((growth, rest), _) ← readRoot reading rest Expansion.budget
  ensure (← Prolog.skipMisc rest).isEmpty .contentOutsideRoot
  let document : Document := ⟨← growth.finish⟩
  ensure document.root?.isSome .noRoot
  return document

end CollectionProfile.Markup
