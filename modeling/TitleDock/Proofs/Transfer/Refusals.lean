import TitleDock.Proofs.Transfer.Passage

/-! What a disk refuses to a fetch. What it may deny to a stage is one thing at a time. The refusal
to make the folders of an output is met when the content has come from the codec, and told
afterwards. -/

namespace TitleDock

open Files Files.Tree

namespace Stage

variable {d : Dock} {stage : Stage} {s : TransferState} {a : Arrival} {output : String} {f g : Fault}

theorem Denied.suits (h : stage.Denied d output a f) (suits : stage.Suits s) :
    ∃ id, s = .downloading id := by
  cases h <;> exact suits

end Stage

namespace Dock

/-- Along the inputs the content came from the codec, and the disk refused to make the folders of
the output. -/
def MetRefusal (d : Dock) (inputs : List DockInput) (output : String) (content : Bytes)
    (e : SystemError) : Prop :=
  ∃ before after, inputs = before ++ .arrive (.decoded (.ok content)) :: after ∧
    ((d.run before).files.makeFolders (d.run before).disk (partFolder output)).2 = .error e

section MetRefusal

variable {d : Dock} {job : Job} {p : Parcel} {e : SystemError} {inputs : List DockInput}

theorem MetRefusal.concat {output : String} {content : Bytes}
    (h : d.MetRefusal inputs output content e) (i : DockInput) :
    d.MetRefusal (inputs ++ [i]) output content e := by
  obtain ⟨before, after, rfl, refused⟩ := h
  exact ⟨before, after ++ [i], by simp, refused⟩

end MetRefusal

end Dock

end TitleDock
