import DualCollection.Files.Tree
import DualCollection.Thread.Run

/-!
# Programs that work on a file tree

`look` and `syscall` are the sections of a program over a `FileTree`: a call may raise what the
environment says, in which case it has no effect, or else it is answered by the tree.
-/

namespace DualCollection

namespace Files

open Thread

variable {L E ε B α : Type} (raises : E → Option ε)

/-- A call that reads the tree. -/
def look (l : L) (f : E → FileTree B → α) : Prog L E (FileTree B) ε α :=
  .atomic l fun a t => match raises a with
    | some err => (.error err, t)
    | none => (.ok (f a t), t)

/-- A call that changes the tree. -/
def syscall (conv : OsError → ε) (l : L) (f : E → FileTree B → Except OsError (FileTree B)) :
    Prog L E (FileTree B) ε Unit :=
  .atomic l fun a t => match raises a with
    | some err => (.error err, t)
    | none => match f a t with
      | .ok t' => (.ok (), t')
      | .error err => (.error (conv err), t)

variable {raises} {conv : OsError → ε} {l : L} {t : FileTree B}

theorem look_post {f : E → FileTree B → α} {Q : Except ε α → FileTree B → Prop}
    (herr : ∀ err, Q (.error err) t) (h : ∀ a, Q (.ok (f a t)) t) : (look raises l f).Post t Q :=
  Prog.ends_atomic fun a => by
    cases raises a with
    | some err => exact herr err
    | none => exact h a

theorem syscall_post {f : E → FileTree B → Except OsError (FileTree B)} {Q : Except ε Unit → FileTree B → Prop}
    (herr : ∀ err, Q (.error err) t) (h : ∀ a t', f a t = .ok t' → Q (.ok ()) t') :
    (syscall raises conv l f).Post t Q :=
  Prog.ends_atomic fun a => by
    cases raises a with
    | some err => exact herr err
    | none =>
      dsimp only
      cases hf : f a t with
      | ok t' => exact h a t' hf
      | error err => exact herr _

/-- A program whose errors leave the tree as it was. -/
theorem look_bind_post {β : Type} {f : E → FileTree B → α} {g : α → Prog L E (FileTree B) ε β}
    {Q : Except ε β → FileTree B → Prop} (herr : ∀ err, Q (.error err) t)
    (h : ∀ a, (g (f a t)).Post t Q) : (look raises l f >>= g).Post t Q :=
  Prog.post_bind (look_post herr h)

end Files

end DualCollection
