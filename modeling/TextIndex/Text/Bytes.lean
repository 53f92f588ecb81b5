import TextIndex.Number.Total

/-!
# Byte lengths

Offsets and lengths of text are counted in the bytes of its UTF-8 form.

* `byteLength`: the bytes of a list of characters.
* `byteLength_append`: lengths add up.
-/

namespace TextIndex.Text

def byteLength (text : List Char) : Nat :=
  Number.total (text.map Char.utf8Size)

@[simp] theorem byteLength_nil : byteLength [] = 0 := rfl

@[simp] theorem byteLength_cons (c : Char) (rest : List Char) :
    byteLength (c :: rest) = c.utf8Size + byteLength rest := by
  simp [byteLength]

@[simp] theorem byteLength_append (first second : List Char) :
    byteLength (first ++ second) = byteLength first + byteLength second := by
  simp [byteLength]

end TextIndex.Text
