import DocAtlas.Proofs.Generation.Agreement
import DocAtlas.Proofs.Manifest.Reloading
import DocAtlas.Proofs.Tree.ClassTree

/-!
# Order independence of runs

Reordered manifests are loaded with alike collections, which show the same, so runs over
them leave the same behind: the same failure, or the same products and the same file system.
-/

namespace DocAtlas

/-- Runs over alike collections leave the same behind. -/
theorem Graph.IsAlike.effects_eq {left right : Collection}
    (alike : Graph.IsAlike left.graph right.graph) (leftLinked : left.IsLinked)
    (rightLinked : right.IsLinked) (settings : Settings) (system : FileSystem) :
    Generation.effects settings left system = Generation.effects settings right system :=
  alike.showsNoMore.effects_eq leftLinked rightLinked alike.symm.showsNoMore settings system

namespace Manifest

/-- The order of the records of a manifest, and of their children, decides neither whether
it is loaded nor what a run over it leaves behind. -/
theorem effects_of_reordered {manifest shuffled : Value} (typed : isWellTyped manifest = true)
    (reordered : IsReordered manifest shuffled) :
    ((∃ left, load manifest = .ok left) ↔ ∃ right, load shuffled = .ok right) ∧
      ∀ left right, load manifest = .ok left → load shuffled = .ok right →
        ∀ settings system,
          Generation.effects settings left system = Generation.effects settings right system := by
  have otherTyped := reordered.isWellTyped typed
  refine ⟨⟨?_, ?_⟩, ?_⟩
  · rintro ⟨left, loaded⟩
    obtain ⟨right, otherLoaded, -⟩ := load_of_reordered typed reordered loaded
    exact ⟨right, otherLoaded⟩
  · rintro ⟨right, loaded⟩
    obtain ⟨left, otherLoaded, -⟩ := load_of_reordered otherTyped reordered.symm loaded
    exact ⟨left, otherLoaded⟩
  · intro left right loaded otherLoaded settings system
    obtain ⟨another, loadedAgain, alike⟩ := load_of_reordered typed reordered loaded
    obtain rfl : right = another := Except.ok.inj (otherLoaded.symm.trans loadedAgain)
    exact alike.effects_eq (isLinked_of_load typed loaded)
      (isLinked_of_load otherTyped otherLoaded) settings system

/-- The tangle from its last class to its first, with the children of `A::C` exchanged. -/
def tangledBackwards : Value :=
  .record
    [("classes", .list
      [.record [("full_name", .text "D"), ("parent", .text "lib/d.rb"),
        ("documents_self", .bool true)],
       .record [("full_name", .text "A::C"), ("parent", .text "A"),
        ("children", .list [.text "B", .text "A::C"]),
        ("methods", .list [.record [("name", .text "call")]])],
       .record [("full_name", .text "B"), ("path", .text "B.html"), ("documents_self", .bool true),
        ("superclass", .text "A::C"), ("children", .list [.text "A"])],
       .record [("full_name", .text "A"), ("kind", .text "module"),
        ("children", .list [.text "B"])]]),
     ("files", .list [.record [("full_name", .text "lib/d.rb")]])]

/-- The tangled manifest read backwards differs from it in order only. -/
theorem isReordered_tangled : IsReordered tangled tangledBackwards := by
  refine .record (fun name isOther => ?_) fun name isListed => ?_
  · exact lookup_of_ne [] _ (List.ne_of_not_mem_cons isOther)
  · rcases List.mem_pair.mp isListed with rfl | rfl
    · refine .list (List.reverse_perm _).symm (.cons (.refl _) (.cons ?_
        (.cons (.refl _) (.cons (.refl _) .nil))))
      refine .record (fun name isOther => ?_) fun name isListed => ?_
      · exact lookup_of_ne [_, _] _ (List.ne_of_not_mem_cons isOther)
      · obtain rfl := List.mem_singleton.mp isListed
        exact .list (.swap _ _ _) (.cons rfl (.cons rfl .nil))
    · exact .same

/-- Both orders of the tangle are loaded, and every run leaves the same behind. -/
theorem tangled_effects :
    isWellTyped tangled = true ∧ IsReordered tangled tangledBackwards ∧
      ∃ left right, load tangled = .ok left ∧ load tangledBackwards = .ok right ∧
        ∀ settings system,
          Generation.effects settings left system = Generation.effects settings right system := by
  have typed : isWellTyped tangled = true := by decide
  obtain ⟨-, sameEffects⟩ := effects_of_reordered typed isReordered_tangled
  refine ⟨typed, isReordered_tangled, _, _, rfl, rfl, ?_⟩
  exact sameEffects _ _ rfl rfl

end Manifest

end DocAtlas
