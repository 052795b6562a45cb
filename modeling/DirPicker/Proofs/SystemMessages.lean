import DirPicker.FileTree

/-!
# What a file tree says when it fails

A failure of the system may come with any message, but those of a file tree are known, and each of
them is one line. `SystemError.OneLine` says this of a result, and is shown for each function that
follows paths, down to the two that a store is made of: reading a file (`oneLine_readFile`) and
entering a directory (`oneLine_enter`).
-/

namespace DirPicker

/-- If the result is a failure, then one with a message of one line. -/
def SystemError.OneLine {α : Type} (result : Except SystemError α) : Prop :=
  ∀ cause, result = .error cause → '\n' ∉ cause.message

namespace SystemError

variable {α β : Type}

theorem oneLine_ok (a : α) : OneLine (.ok a) := by
  intro cause h
  cases h

theorem oneLine_error {cause : SystemError} (h : '\n' ∉ cause.message) :
    OneLine (.error cause : Except SystemError α) := by
  intro cause' h'
  obtain rfl := Except.error.inj h'
  exact h

/-- Steps that fail in one line each do so after one another. -/
theorem oneLine_bind {x : Except SystemError α} {f : α → Except SystemError β} (hx : OneLine x)
    (hf : ∀ a, OneLine (f a)) : OneLine (x >>= f) := by
  cases x with
  | error cause => exact oneLine_error (hx cause rfl)
  | ok a => exact hf a

/-- Decoding fails in one line, whatever the bytes are. -/
theorem oneLine_decodeText (bytes : ByteArray) : OneLine (decodeText bytes) := by
  rw [decodeText]
  split
  · exact oneLine_ok _
  · exact oneLine_error (by decide +kernel)

end SystemError

open SystemError

theorem Foothold.oneLine_ascend (dir : Foothold) (steps : List Text) :
    OneLine (dir.ascend steps) := by
  induction steps generalizing dir with
  | nil => exact oneLine_ok _
  | cons segment rest ih =>
    rw [ascend]
    split
    · exact oneLine_ok _
    · split
      · exact ih dir
      · split
        · exact ih _
        · exact oneLine_error (by decide +kernel)

namespace FileTree

variable (tree : FileTree)

theorem oneLine_walk (aim : Aim) {follow : Place → List Text → Except SystemError Place}
    (h : ∀ place steps, OneLine (follow place steps)) (here : Place) (steps : List Text) :
    OneLine (tree.walk aim follow here steps) := by
  induction steps generalizing here with
  | nil => exact oneLine_ok here
  | cons segment rest ih =>
    unfold walk
    -- Each way to fail on a step has a message of its own, and the other ways lead on.
    split
    · exact oneLine_error (by decide +kernel)
    · exact oneLine_error (by decide +kernel)
    · split
      · exact ih here
      · split
        · exact ih here.dropLast
        · split
          · exact oneLine_error (by decide +kernel)
          · dsimp only
            split
            · split
              · exact oneLine_ok _
              · exact oneLine_error (by decide +kernel)
            · split
              · exact oneLine_ok _
              · exact h _ _
            · exact ih _

/-- Links can be followed to the limit and still the failure is of one line. -/
theorem oneLine_walkThrough (aim : Aim) (links : Nat) (here : Place) (steps : List Text) :
    OneLine (tree.walkThrough aim links here steps) := by
  -- The last link fails by the limit; those before it follow the rest of the way.
  induction links generalizing here steps with
  | zero => exact oneLine_walk tree aim (fun _ _ => oneLine_error (by decide +kernel)) here steps
  | succ links ih => exact oneLine_walk tree aim (fun place steps => ih place steps) here steps

theorem oneLine_resolve (aim : Aim) (dir : Foothold) (path : Text) :
    OneLine (tree.resolve aim dir path) := by
  unfold resolve
  split
  · exact oneLine_error (by decide +kernel)
  · split
    · exact oneLine_error (by decide +kernel)
    · split
      · exact oneLine_error (by decide +kernel)
      · refine oneLine_bind (Foothold.oneLine_ascend _ _) ?_
        rintro ⟨here, rest⟩
        dsimp only
        split
        · exact oneLine_bind (oneLine_walkThrough tree aim linkLimit here.place rest)
            fun _ => oneLine_ok _
        · exact oneLine_ok here

theorem oneLine_readFile (dir : Foothold) (path : Text) : OneLine (tree.readFile dir path) := by
  refine oneLine_bind (oneLine_resolve tree .target dir path) ?_
  intro found
  split
  · exact oneLine_ok _
  · exact oneLine_error (by decide +kernel)
  · exact oneLine_error (by decide +kernel)

/-- Entering a directory fails in one line. -/
theorem oneLine_enter (dir : Foothold) (path : Text) : OneLine (tree.enter dir path) := by
  refine oneLine_bind (oneLine_resolve tree .target dir path) ?_
  intro found
  split
  · exact oneLine_error (by decide +kernel)
  · exact oneLine_ok _

end FileTree

end DirPicker
