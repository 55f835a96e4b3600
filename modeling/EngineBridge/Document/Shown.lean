import EngineBridge.Failure

/-!
Documents written into a text, which fails for a document that cannot be written.
-/

namespace EngineBridge.Document

/-- A document as it is shown. -/
def shown (document : Document) : Except Failure String :=
  if document.isWritable then .ok document.spelling else .error .unreadable

/-- A document as part of a text. -/
def plainText (document : Document) : Except Failure String :=
  if document.isWritable then .ok document.wording else .error .unreadable

/-- Fail for documents that cannot all be written. -/
def requireWritable (documents : List Document) : Except Failure Unit :=
  if documents.all isWritable then .ok () else .error .unreadable

theorem requireWritable_of_all {documents : List Document}
    (writable : ∀ document ∈ documents, document.isWritable = true) :
    requireWritable documents = .ok () :=
  if_pos (List.all_eq_true.mpr writable)

theorem shown_of_isWritable {document : Document} (writable : document.isWritable = true) :
    document.shown = .ok document.spelling :=
  if_pos writable

@[simp] theorem plainText_text (value : String) : plainText (.text value) = .ok value := rfl

end EngineBridge.Document
