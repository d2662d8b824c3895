import DocAtlas.Proofs.Manifest.Loading
import DocAtlas.Proofs.Tree.Placement

/-!
# Class trees of loaded manifests

A well-typed manifest that is loaded has a class tree, whatever aliases, cycles and
files stand in it. The tree shows the forest of its collection, which holds the right
entities, and each of them at the right place.
-/

namespace DocAtlas.Manifest

/-- The class tree of a loaded manifest shows a forest that holds every class and module
with documentation once, and nothing else. -/
theorem classTree_shows_documented {manifest : Value} (typed : isWellTyped manifest = true)
    {collection : Collection} (loaded : load manifest = .ok collection) :
    ∃ nodes, collection.graph.classTree collection.classes = .ok nodes ∧
      collection.graph.Shows nodes collection.forest ∧
      (Branch.entities collection.forest).Nodup ∧
      ∀ id, id ∈ Branch.entities collection.forest ↔
        id ∈ collection.classes ∧ collection.graph.hasDocumentation id = true := by
  have linked := isLinked_of_load typed loaded
  obtain ⟨nodes, made, shows⟩ := linked.classTree_shows
  exact ⟨nodes, made, shows, linked.nodup_forest, fun _ => linked.mem_forest⟩

/-- A manifest whose links are a tangle: `A` has no page and lists `B`, `B` lists `A`,
`A::C` lists itself, and `D` stands in a file. -/
def tangled : Value :=
  .record
    [("classes", .list
      [.record [("full_name", .text "A"), ("kind", .text "module"),
        ("children", .list [.text "B"])],
       .record [("full_name", .text "B"), ("path", .text "B.html"), ("documents_self", .bool true),
        ("superclass", .text "A::C"), ("children", .list [.text "A"])],
       .record [("full_name", .text "A::C"), ("parent", .text "A"),
        ("children", .list [.text "A::C", .text "B"]),
        ("methods", .list [.record [("name", .text "call")]])],
       .record [("full_name", .text "D"), ("parent", .text "lib/d.rb"),
        ("documents_self", .bool true)]]),
     ("files", .list [.record [("full_name", .text "lib/d.rb")]])]

/-- All four classes and modules of the tangle have a node, though `A` has no page. -/
theorem tangled_classTree_shows :
    isWellTyped tangled = true ∧ ∃ collection nodes, load tangled = .ok collection ∧
      collection.graph.classTree collection.classes = .ok nodes ∧
      collection.graph.Shows nodes collection.forest ∧
      (Branch.entities collection.forest).Nodup ∧
      ∀ id ∈ [0, 1, 2, 3], id ∈ Branch.entities collection.forest := by
  obtain ⟨collection, loaded, isClass⟩ : ∃ collection, load tangled = .ok collection ∧
      ∀ id ∈ [0, 1, 2, 3],
        id ∈ collection.classes ∧ collection.graph.hasDocumentation id = true := by
    refine ⟨_, rfl, ?_⟩
    decide
  have typed : isWellTyped tangled = true := by decide
  obtain ⟨nodes, made, shows, nodup, isShown⟩ := classTree_shows_documented typed loaded
  exact ⟨typed, collection, nodes, loaded, made, shows, nodup,
    fun id isPlace => (isShown id).mpr (isClass id isPlace)⟩

/-- The first container in sorted order keeps an entity. Siblings increase strictly at
every level of the forest of a loaded manifest. A documented root stands at the top, or
below a root with a smaller key. A documented member of a class or module stands in front
of it, directly below it, or below a direct child with a smaller key; a documented member
of a file, which has no node, is a root. -/
theorem forest_first_container_keeps {manifest : Value} (typed : isWellTyped manifest = true)
    {collection : Collection} (loaded : load manifest = .ok collection) :
    (∃ nodes, collection.graph.classTree collection.classes = .ok nodes ∧
      collection.graph.Shows nodes collection.forest) ∧
    (collection.graph.IsIncreasing collection.forest ∧
      ∀ branch ∈ Branch.preorder collection.forest,
        collection.graph.IsIncreasing branch.children) ∧
    (∀ root ∈ collection.graph.roots collection.classes,
      collection.graph.hasDocumentation root = true →
        collection.graph.StandsAmong collection.forest root) ∧
    ∀ container member, collection.graph.Contains container member → member ≠ container →
      collection.graph.hasDocumentation member = true →
      (container ∈ collection.classes →
        [member, container].Sublist (Branch.entities collection.forest) ∨
          ∃ branch ∈ Branch.preorder collection.forest, branch.entity = container ∧
            collection.graph.StandsAmong branch.children member) ∧
      (container ∈ collection.files → member ∈ collection.graph.roots collection.classes) := by
  have linked := isLinked_of_load typed loaded
  refine ⟨linked.classTree_shows, linked.forest_increasing, ?_, ?_⟩
  · exact fun root isRoot documented => linked.root_standsAmong isRoot documented
  · intro container member contains differs documented
    refine ⟨fun isClass => ?_, fun isFile => linked.member_mem_roots isFile contains⟩
    exact linked.member_standsAmong isClass contains differs documented

/-- In the tangle `B` is a root, but `A` comes first and keeps it. -/
theorem tangled_forest_first_container_keeps :
    isWellTyped tangled = true ∧ ∃ collection, load tangled = .ok collection ∧
      collection.graph.IsIncreasing collection.forest ∧
      collection.graph.StandsAmong collection.forest 1 ∧
      ([1, 0].Sublist (Branch.entities collection.forest) ∨
        ∃ branch ∈ Branch.preorder collection.forest, branch.entity = 0 ∧
          collection.graph.StandsAmong branch.children 1) := by
  obtain ⟨collection, loaded, isRoot, documented, contains, isClass⟩ :
      ∃ collection, load tangled = .ok collection ∧
        1 ∈ collection.graph.roots collection.classes ∧
        collection.graph.hasDocumentation 1 = true ∧ 1 ∈ collection.graph.nested 0 ∧
        0 ∈ collection.classes := by
    refine ⟨_, rfl, ?_⟩
    decide
  have typed : isWellTyped tangled = true := by decide
  obtain ⟨-, ⟨increasing, -⟩, rootsStand, membersStand⟩ :=
    forest_first_container_keeps typed loaded
  exact ⟨typed, collection, loaded, increasing, rootsStand 1 isRoot documented,
    (membersStand 0 1 contains (by decide) documented).1 isClass⟩

end DocAtlas.Manifest
