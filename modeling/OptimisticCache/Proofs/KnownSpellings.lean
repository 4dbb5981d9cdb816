import OptimisticCache.Payload.Chain
import OptimisticCache.Payload.Comment
import OptimisticCache.Payload.Project
import OptimisticCache.Proofs.Spelling
/-!
# Known spellings

The four kinds of records and how a payload may spell them: every field under any one
of its names, texts as strings or numbers, counters as integers or numerals, and the
fields that may be left out.  All spellings of one record are read as this record.

Main results:

- Theorems {lit}`Comment.separate`, {lit}`Project.separate`, {lit}`Chain.separate`
  and {lit}`ChainPost.separate`: the names of the fields do not get in each other's
  way.
- Theorem {lit}`Payload.spelled_read_back`: a payload that spells a record is read as
  the record.
-/

namespace OptimisticCache

open Payload (FieldSpec Spells Separate)

/-! ## Comments -/

namespace Comment

/-- The fields of a comment as a payload may give them. -/
def spec (c : Comment) : List FieldSpec :=
  [.text idNames c.id False, .text contentNames c.content (c.content = ""),
    .optional projectNames c.projectId, .optional authorNames c.authorId,
    .count upvoteNames c.upvotes, .count downvoteNames c.downvotes,
    .optional createdNames c.createdAt]

/-- The names of the fields of a comment do not get in each other's way. -/
theorem separate (c : Comment) : Separate wrappers (c.spec.map FieldSpec.names) := by
  have hnames : c.spec.map FieldSpec.names =
      [idNames, contentNames, projectNames, authorNames, upvoteNames, downvoteNames, createdNames] :=
    rfl
  rw [hnames]
  exact ⟨by decide, by decide, by decide⟩

/-- A time is read from every value that gives its text. -/
theorem timeText_of_givesText {s : String} {w : Json} (h : Payload.GivesText s w) :
    timeText w = s := by
  cases h with
  | string s => rfl
  | number n => simp [timeText, Json.print, Json.printChars, Number.text]

/-- Every spelling of a comment is read as the comment. -/
theorem normalize_of_spells {c : Comment} {payload : Json} (h : Spells wrappers c.spec payload) :
    normalize payload = .ok c := by
  obtain ⟨hobject, hstands⟩ := h.exists_stands c.separate
  simp only [spec, List.forall_mem_cons] at hstands
  obtain ⟨hid, hcontent, hproject, hauthor, hup, hdown, hcreated, _⟩ := hstands
  let v := Payload.unwrap wrappers payload
  have hcreated : (Payload.pick v createdNames).map timeText = c.createdAt := by
    rcases Payload.pick_optional_of_stands (by decide) hcreated with ⟨w, t, hw, hs, ht⟩ | ⟨hw, hs⟩
    · rw [hw, hs, Option.map_some, timeText_of_givesText ht]
    · rw [hw, hs, Option.map_none]
  simp only [normalize, Payload.requireId_of_stands hobject hid, Payload.pickCount_of_stands hup,
    Payload.pickCount_of_stands hdown, Payload.pickText_getD_of_stands hcontent,
    Payload.pickText_optional_of_stands hproject, Payload.pickText_optional_of_stands hauthor]
  rw [hcreated]
  rfl

end Comment

/-! ## Projects -/

namespace Project

/-- The fields of a project as a payload may give them. -/
def spec (p : Project) : List FieldSpec :=
  [.text idNames p.id False, .text titleNames p.title (p.title = ""),
    .count commentCountNames p.commentCount, .count likeCountNames p.likeCount]

/-- The names of the fields of a project do not get in each other's way. -/
theorem separate (p : Project) : Separate wrappers (p.spec.map FieldSpec.names) := by
  have hnames : p.spec.map FieldSpec.names =
      [idNames, titleNames, commentCountNames, likeCountNames] := rfl
  rw [hnames]
  exact ⟨by decide, by decide, by decide⟩

/-- Every spelling of a project is read as the project. -/
theorem normalize_of_spells {p : Project} {payload : Json} (h : Spells wrappers p.spec payload) :
    normalize payload = .ok p := by
  obtain ⟨hobject, hstands⟩ := h.exists_stands p.separate
  simp only [spec, List.forall_mem_cons] at hstands
  obtain ⟨hid, htitle, hcomments, hlikes, _⟩ := hstands
  simp only [normalize, Payload.requireId_of_stands hobject hid,
    Payload.pickCount_of_stands hcomments, Payload.pickCount_of_stands hlikes,
    Payload.pickText_getD_of_stands htitle]
  rfl

end Project

/-! ## Chains -/

namespace Chain

/-- The fields of a chain as a payload may give them. -/
def spec (c : Chain) : List FieldSpec :=
  [.text idNames c.id False, .text nameNames c.name (c.name = ""),
    .count postCountNames c.postCount, .count memberCountNames c.memberCount]

/-- The names of the fields of a chain do not get in each other's way. -/
theorem separate (c : Chain) : Separate wrappers (c.spec.map FieldSpec.names) := by
  have hnames : c.spec.map FieldSpec.names =
      [idNames, nameNames, postCountNames, memberCountNames] := rfl
  rw [hnames]
  exact ⟨by decide, by decide, by decide⟩

/-- Every spelling of a chain is read as the chain. -/
theorem normalize_of_spells {c : Chain} {payload : Json} (h : Spells wrappers c.spec payload) :
    normalize payload = .ok c := by
  obtain ⟨hobject, hstands⟩ := h.exists_stands c.separate
  simp only [spec, List.forall_mem_cons] at hstands
  obtain ⟨hid, hname, hposts, hmembers, _⟩ := hstands
  simp only [normalize, Payload.requireId_of_stands hobject hid,
    Payload.pickCount_of_stands hposts, Payload.pickCount_of_stands hmembers,
    Payload.pickText_getD_of_stands hname]
  rfl

end Chain

/-! ## Posts -/

namespace ChainPost

/-- The fields of a post as a payload may give them. -/
def spec (p : ChainPost) : List FieldSpec :=
  [.text idNames p.id False, .optional chainNames p.chainId,
    .text titleNames p.title (p.title = ""), .text contentNames p.content (p.content = ""),
    .optional authorNames p.authorId, .count upvoteNames p.upvotes,
    .count downvoteNames p.downvotes]

/-- The names of the fields of a post do not get in each other's way. -/
theorem separate (p : ChainPost) : Separate wrappers (p.spec.map FieldSpec.names) := by
  have hnames : p.spec.map FieldSpec.names =
      [idNames, chainNames, titleNames, contentNames, authorNames, upvoteNames, downvoteNames] :=
    rfl
  rw [hnames]
  exact ⟨by decide, by decide, by decide⟩

/-- Every spelling of a post is read as the post. -/
theorem normalize_of_spells {p : ChainPost} {payload : Json} (h : Spells wrappers p.spec payload) :
    normalize payload = .ok p := by
  obtain ⟨hobject, hstands⟩ := h.exists_stands p.separate
  simp only [spec, List.forall_mem_cons] at hstands
  obtain ⟨hid, hchain, htitle, hcontent, hauthor, hup, hdown, _⟩ := hstands
  simp only [normalize, Payload.requireId_of_stands hobject hid, Payload.pickCount_of_stands hup,
    Payload.pickCount_of_stands hdown, Payload.pickText_getD_of_stands htitle,
    Payload.pickText_getD_of_stands hcontent, Payload.pickText_optional_of_stands hchain,
    Payload.pickText_optional_of_stands hauthor]
  rfl

end ChainPost

/-! ## All kinds -/

namespace Payload

/-- A payload that spells a comment, a project, a chain or a post is read as just this record. -/
theorem spelled_read_back :
    (∀ (c : Comment) payload, Spells Comment.wrappers c.spec payload →
      Comment.normalize payload = .ok c) ∧
    (∀ (p : Project) payload, Spells Project.wrappers p.spec payload →
      Project.normalize payload = .ok p) ∧
    (∀ (c : Chain) payload, Spells Chain.wrappers c.spec payload →
      Chain.normalize payload = .ok c) ∧
    ∀ (p : ChainPost) payload, Spells ChainPost.wrappers p.spec payload →
      ChainPost.normalize payload = .ok p :=
  ⟨fun _ _ => Comment.normalize_of_spells, fun _ _ => Project.normalize_of_spells,
    fun _ _ => Chain.normalize_of_spells, fun _ _ => ChainPost.normalize_of_spells⟩

/-- A comment in a wrapper with a numeral, a number as identifier, nested names and a further
member; a project without its counters; a chain with both counters in one object; a post. -/
theorem spelled_read_back_mixed :
    let comment : Comment :=
      ⟨(Number.integer 17).text, "", some "p1", none, Count.clamp 4, Count.zero, none⟩
    let project : Project := ⟨"p1", "Kyoto", Count.zero, Count.zero⟩
    let chain : Chain := ⟨"ch1", "", Count.clamp 3, Count.clamp 4⟩
    let post : ChainPost := ⟨"5", some "ch1", "Visa", "", none, Count.zero, Count.clamp (-1)⟩
    Comment.normalize
        (Json.ofMembers
          [("data",
            Json.ofMembers
              [("pinned", .bool true), ("likes", .string " +04\n"),
                ("user", Json.ofMembers [("id", .null)]),
                ("project", Json.ofMembers [("id", .string "p1")]), ("_id", Json.int 17)])]) =
        .ok comment ∧
      Project.normalize
        (Json.ofMembers [("pinned", .bool true), ("name", .string "Kyoto"), ("id", .string "p1")]) =
        .ok project ∧
      Chain.normalize
        (Json.ofMembers
          [("chain",
            Json.ofMembers
              [("pinned", .bool true),
                ("_count", Json.ofMembers [("members", .string " +04\n"), ("posts", Json.int 3)]),
                ("chainId", .string "ch1")])]) =
        .ok chain ∧
      ChainPost.normalize
        (Json.ofMembers
          [("pinned", .bool true), ("downvotes", Json.int (-1)), ("subject", .string "Visa"),
            ("chain", Json.ofMembers [("id", .string "ch1")]), ("postId", .string "5")]) =
        .ok post := by
  intro comment project chain post
  obtain ⟨hcomment, hproject, hchain, hpost⟩ := spelled_read_back
  let further := Json.ofMembers [("pinned", .bool true)]
  have hnumeral : GivesCount (Count.clamp 4) (.string " +04\n") := by
    have htext : " +04\n" =
        String.ofList ([' '] ++ ('+' :: (List.replicate 1 '0' ++ Decimal.digits 4)) ++ ['\n']) := by
      decide +kernel
    rw [htext]
    exact .numeral (.plus 1 4) (List.forall_mem_singleton.mpr rfl)
      (List.forall_mem_singleton.mpr rfl)
  refine ⟨hcomment _ _ ?_, hproject _ _ ?_, hchain _ _ ?_, hpost _ _ ?_⟩
  · have hfurther : Further Comment.wrappers comment.spec further :=
      further_of_names (by decide) (by decide)
    have hwritten : Written further comment.spec
        (place (place (place (place further ["likes"] (.string " +04\n")) ["user", "id"] .null)
          ["project", "id"] (.string "p1")) ["_id"] (Json.int 17)) :=
      .given (.omitted (.given (.null (.given (.omitted (.omitted .nothing rfl) rfl) (by decide)
        hnumeral) (by decide) rfl) (by decide) ⟨"p1", rfl, .string "p1"⟩) rfl) (by decide)
        (.number (.integer 17))
    have hplaced :
        place (place (place (place further ["likes"] (.string " +04\n")) ["user", "id"] .null)
          ["project", "id"] (.string "p1")) ["_id"] (Json.int 17) =
          Json.ofMembers
            [("pinned", .bool true), ("likes", .string " +04\n"),
              ("user", Json.ofMembers [("id", .null)]),
              ("project", Json.ofMembers [("id", .string "p1")]), ("_id", Json.int 17)] := by
      decide +kernel
    rw [hplaced] at hwritten
    exact .wrapped hfurther hwritten (show "data" ∈ Comment.wrappers by decide)
  · have hfurther : Further Project.wrappers project.spec further :=
      further_of_names (by decide) (by decide)
    have hwritten : Written further project.spec
        (place (place further ["name"] (.string "Kyoto")) ["id"] (.string "p1")) :=
      .given (.given (.omitted (.omitted .nothing rfl) rfl) (by decide) (.string "Kyoto"))
        (by decide) (.string "p1")
    exact .bare hfurther hwritten
  · have hfurther : Further Chain.wrappers chain.spec further :=
      further_of_names (by decide) (by decide)
    have hwritten : Written further chain.spec
        (place (place (place further ["_count", "members"] (.string " +04\n")) ["_count", "posts"]
          (Json.int 3)) ["chainId"] (.string "ch1")) :=
      .given (.omitted (.given (.given .nothing (by decide) hnumeral) (by decide) .integer) rfl)
        (by decide) (.string "ch1")
    have hplaced :
        place (place (place further ["_count", "members"] (.string " +04\n")) ["_count", "posts"]
          (Json.int 3)) ["chainId"] (.string "ch1") =
          Json.ofMembers
            [("pinned", .bool true),
              ("_count", Json.ofMembers [("members", .string " +04\n"), ("posts", Json.int 3)]),
              ("chainId", .string "ch1")] := by decide +kernel
    rw [hplaced] at hwritten
    exact .wrapped hfurther hwritten (show "chain" ∈ Chain.wrappers by decide)
  · have hfurther : Further ChainPost.wrappers post.spec further :=
      further_of_names (by decide) (by decide)
    have hwritten : Written further post.spec
        (place (place (place (place further ["downvotes"] (Json.int (-1))) ["subject"]
          (.string "Visa")) ["chain", "id"] (.string "ch1")) ["postId"] (.string "5")) :=
      .given (.given (.given (.omitted (.omitted (.omitted (.given .nothing (by decide) .integer)
        rfl) rfl) rfl) (by decide) (.string "Visa")) (by decide) ⟨"ch1", rfl, .string "ch1"⟩)
        (by decide) (.string "5")
    exact .bare hfurther hwritten

end Payload
end OptimisticCache
