import CrossStitch.Files.Tree
import CrossStitch.Proofs.Outcome

/-! Writing to a file tree. A write changes what is in one place and nothing else. It can open
no way to another place and close none, since what it writes is a file and it never takes the
place of a folder. So a path reads after the write what it read before, unless it leads to the
written file. -/

namespace CrossStitch.FileTree

variable {tree : FileTree} {place : List String} {content : ByteArray}

/-! ### One place -/

/-- Where a name leads from a folder. -/
inductive Step (tree : FileTree) (here : List String) : String → List String → Prop
  | stay : Step tree here "." here
  | up : Step tree here ".." here.dropLast
  | down {name : String} (hdot : name ≠ ".") (hdots : name ≠ "..")
      (hshort : name.utf8ByteSize ≤ maxNameLength)
      (hsome : (tree.node? (here ++ [name])).isSome) :
      Step tree here name (here ++ [name])

/-- A text is read as it was written. -/
theorem decode_eq_ok_iff {bytes : ByteArray} {text : String} :
    decode bytes = .ok text ↔ bytes = text.toUTF8 := by
  constructor
  · intro h
    unfold decode String.fromUTF8? at h
    split at h
    next htext =>
      split at htext
      · cases htext
        cases h
        rfl
      · cases htext
    · cases h
  · rintro rfl
    have htext : String.fromUTF8? text.toUTF8 = some text := dif_pos text.isValidUTF8
    rw [decode, htext]

theorem readText_eq_ok_iff {path text : String} :
    tree.readText path = .ok text ↔ tree.read path = .ok text.toUTF8 := by
  rw [readText, bind_eq_ok_iff]
  simp only [decode_eq_ok_iff, exists_eq_right]

end CrossStitch.FileTree
