import Mathlib.Data.List.Nodup
import OptimisticCache.CommandLine.Program
import OptimisticCache.Proofs.EntryTables
import OptimisticCache.Proofs.PatchedKeys
import OptimisticCache.Proofs.QueryPaths
import OptimisticCache.Proofs.RoundTrips
/-!
# Queries on the command line are neither merged nor dropped

A query goes through two texts.  It is read from one, where its id is everything behind
the first colon, and it is shown as another, the display of its key.  The display of keys in
general is ambiguous, since a value may hold every character that stands between the
parameters.  The keys that the program makes have one parameter, whose name follows from
the kind, and then the display can be read from the left: the name of a kind holds no
bracket, so the first bracket ends it, and what is left is the id.

The cache is shown as an object with the displays as names.  No key is cached twice, so
no display occurs twice, and no entry hides another one.

Main results:

- Theorem {lit}`CommandLine.readQuery_eq_ok_iff`: which texts are queries, and for what.
- Theorem {lit}`QueryKey.display_of_injective`: keys with one display are the same, if they
  have the identifying parameter and no other.
- Theorem {lit}`CommandLine.showsEntries_cacheJson`: how a store with the keys of the
  program is shown.
- Theorem {lit}`CommandLine.queries_kept`: queries are told apart when they are read and
  when they are shown.
- Theorem {lit}`CommandLine.shows_of_ends`: what the program prints is such a cache.
-/

namespace OptimisticCache

/-! ## Reading queries -/

namespace CommandLine

/-- The two parts of a text: what stands before its first colon, and what stands behind it. -/
structure Parts (text name id : String) : Prop where
  text_eq : text = name ++ ":" ++ id
  plain : ':' ∉ name.toList

/-- The names of the kinds of queries; the posts of a chain have two. -/
inductive Names : String → Entity → Prop
  | comments : Names "comments" .comments
  | project : Names "project" .project
  | posts : Names "posts" .chainPosts
  | chainPosts : Names "chain_posts" .chainPosts
  | chain : Names "chain" .chain
  | userComments : Names "user_comments" .userComments

/-- The six names that are accepted. -/
def kindNames : List String :=
  ["comments", "project", "posts", "chain_posts", "chain", "user_comments"]

/-- Names of one kind: the same name, or the two names of the posts of a chain. -/
def Synonymous (a b : String) : Prop :=
  a = b ∨ a = "posts" ∧ b = "chain_posts" ∨ a = "chain_posts" ∧ b = "posts"

variable {query name id : String} {e f : Entity} {k : QueryKey}

/-- Every kind is accepted under its own name. -/
theorem names_name (e : Entity) : Names e.name e := by
  cases e
  · exact .comments
  · exact .project
  · exact .chainPosts
  · exact .chain
  · exact .userComments

/-- A name stands for a kind exactly if it is one of the accepted names of the kind. -/
theorem kindNamed?_eq_some_iff : kindNamed? name = some e ↔ Names name e := by
  constructor
  · intro h
    unfold kindNamed? at h
    split at h
    · rename_i hposts
      rw [hposts, ← Option.some.inj h]
      exact .posts
    · rw [← Entity.ofName?_eq_some_iff.mp h]
      exact names_name e
  · intro h
    cases h <;> decide

/-- The accepted names are the listed ones. -/
theorem exists_names_iff : (∃ e, Names name e) ↔ name ∈ kindNames := by
  constructor
  · rintro ⟨e, h⟩
    cases h <;> decide
  · intro h
    simp only [kindNames, List.mem_cons, List.not_mem_nil, or_false] at h
    rcases h with rfl | rfl | rfl | rfl | rfl | rfl
    · exact ⟨_, .comments⟩
    · exact ⟨_, .project⟩
    · exact ⟨_, .posts⟩
    · exact ⟨_, .chainPosts⟩
    · exact ⟨_, .chain⟩
    · exact ⟨_, .userComments⟩

/-- Two accepted names stand for one kind exactly if they are synonymous. -/
theorem eq_iff_synonymous {a b : String} (ha : Names a e) (hb : Names b f) :
    e = f ↔ Synonymous a b := by
  cases ha <;> cases hb <;> simp [Synonymous]

/-- A text is split at its first colon. -/
theorem splitColon_eq_some_iff {cs front back : List Char} :
    splitColon cs = some (front, back) ↔ cs = front ++ ':' :: back ∧ ':' ∉ front := by
  constructor
  · intro h
    have hcolon : ':' ∈ cs := by
      by_contra hplain
      rw [splitColon_plain hplain] at h
      cases h
    obtain ⟨front', back', rfl, hfront'⟩ := List.eq_append_cons_of_mem hcolon
    rw [splitColon_append hfront'] at h
    obtain ⟨rfl, rfl⟩ := Prod.mk.inj (Option.some.inj h)
    exact ⟨rfl, hfront'⟩
  · rintro ⟨rfl, hfront⟩
    exact splitColon_append hfront back

/-- The parts of a text are what it is split into. -/
theorem parts_iff_splitColon :
    Parts query name id ↔ splitColon query.toList = some (name.toList, id.toList) := by
  rw [splitColon_eq_some_iff]
  constructor
  · rintro ⟨rfl, hplain⟩
    exact ⟨by simp, hplain⟩
  · rintro ⟨htext, hplain⟩
    exact ⟨String.toList_inj.mp (by simpa using htext), hplain⟩

/-- A text is a query for a resource exactly if its part before the first colon names the kind
and its part behind it is the id. -/
theorem readQuery_eq_ok_iff :
    readQuery query = .ok k ↔
      ∃ name id e, Parts query name id ∧ Names name e ∧ k = .of e id := by
  constructor
  · intro h
    unfold readQuery at h
    split at h
    · cases h
    · rename_i front back hsplit
      split at h
      · rename_i e hkind
        obtain rfl := Except.ok.inj h
        exact ⟨.ofList front, .ofList back, e, parts_iff_splitColon.mpr (by simpa using hsplit),
          kindNamed?_eq_some_iff.mp hkind, rfl⟩
      · cases h
  · rintro ⟨name, id, e, hparts, hname, rfl⟩
    have hkind := kindNamed?_eq_some_iff.mpr hname
    simp [readQuery, parts_iff_splitColon.mp hparts, hkind]

/-- The parts of a text are determined by it. -/
theorem Parts.unique {name' id' : String} (h : Parts query name id) (h' : Parts query name' id') :
    name = name' ∧ id = id' := by
  have hsplit := (parts_iff_splitColon.mp h).symm.trans (parts_iff_splitColon.mp h')
  obtain ⟨hname, hid⟩ := Prod.mk.inj (Option.some.inj hsplit)
  exact ⟨String.toList_inj.mp hname, String.toList_inj.mp hid⟩

/-- What a text is a query for, told by its parts. -/
theorem readQuery_of_parts (h : Parts query name id) :
    readQuery query = .ok k ↔ ∃ e, Names name e ∧ k = .of e id := by
  rw [readQuery_eq_ok_iff]
  constructor
  · rintro ⟨name', id', e, hparts, hname, rfl⟩
    obtain ⟨rfl, rfl⟩ := h.unique hparts
    exact ⟨e, hname, rfl⟩
  · rintro ⟨e, hname, rfl⟩
    exact ⟨name, id, e, h, hname, rfl⟩

end CommandLine

/-! ## Displays of keys -/

namespace QueryKey

variable {e f : Entity} {i j : String}

/-- The first separator divides a list in one way only. -/
theorem eq_and_eq_of_append_cons_eq {α : Type} {c : α} {a b front back : List α} (ha : c ∉ a)
    (hfront : c ∉ front) (h : a ++ c :: b = front ++ c :: back) : a = front ∧ b = back := by
  induction a generalizing front with
  | nil =>
    cases front with
    | nil => exact ⟨rfl, (List.cons.inj h).2⟩
    | cons d front => exact absurd (List.cons.inj h).1 (List.ne_of_not_mem_cons hfront)
  | cons d a ih =>
    cases front with
    | nil => exact absurd (List.cons.inj h).1.symm (List.ne_of_not_mem_cons ha)
    | cons d' front =>
      obtain ⟨rfl, hrest⟩ := List.cons.inj h
      obtain ⟨rfl, rfl⟩ :=
        ih (List.not_mem_of_not_mem_cons ha) (List.not_mem_of_not_mem_cons hfront) hrest
      exact ⟨rfl, rfl⟩

/-- How the key of a kind is shown. -/
theorem display_of (e : Entity) (i : String) :
    (of e i).display = e.name ++ "[" ++ e.idParam ++ "=" ++ i ++ "]" := by
  have hparams : (of e i).params = [(e.idParam, i)] := rfl
  simp [display, hparams, show (of e i).entity = e from rfl, String.append_assoc]

/-- Keys with one display are the same, if they have the identifying parameter and no other: the
first bracket ends the name of the kind, whatever the id holds. -/
theorem display_of_injective (h : (of e i).display = (of f j).display) : of e i = of f j := by
  have hplain : ∀ g : Entity, '[' ∉ g.name.toList := by
    intro g
    cases g <;> decide
  have hlists : e.name.toList ++ '[' :: (e.idParam ++ "=" ++ i ++ "]").toList =
      f.name.toList ++ '[' :: (f.idParam ++ "=" ++ j ++ "]").toList := by
    rw [display_of, display_of] at h
    simpa using congrArg String.toList h
  obtain ⟨hname, hrest⟩ := eq_and_eq_of_append_cons_eq (hplain e) (hplain f) hlists
  obtain rfl := Entity.name_injective (String.toList_inj.mp hname)
  rw [String.toList_inj, String.append_left_inj, String.append_right_inj] at hrest
  rw [hrest]

/-- With more parameters than one, different keys can have one display. -/
example :
    let k := ((new .comments).param "page" "2").param "sort" "new"
    let k' := (new .comments).param "page" "2,sort=new"
    k ≠ k' ∧ k.display = k'.display := by
  decide +kernel

end QueryKey

namespace CommandLine

/-- The keys that the program caches values under: of queries on the command line, and those that
the mutations of the catalogue patch or invalidate. -/
inductive Issued : QueryKey → Prop
  | read {query : String} {k : QueryKey} (h : readQuery query = .ok k) : Issued k
  | patched (m : CatalogueMutation) (createdAt : String) {p : QueryKey × Patch}
      (h : p ∈ m.patches createdAt) : Issued p.1
  | dependent (m : CatalogueMutation) (d : DependencyMap) {k : QueryKey}
      (h : k ∈ d.keysFor m.kind m.scope) : Issued k

variable {k k' : QueryKey}

/-- The keys that depend on a mutation are keys of kinds. -/
theorem exists_of_mem_keysFor {d : DependencyMap} {kind : MutationKind} {scope : Scope}
    (h : k ∈ d.keysFor kind scope) : ∃ e i, k = .of e i := by
  obtain ⟨e, -, hk⟩ := List.mem_filterMap.mp h
  obtain ⟨i, -, rfl⟩ := Option.map_eq_some_iff.mp hk
  exact ⟨e, i, rfl⟩

/-- All keys of the program have the identifying parameter and no other. -/
theorem Issued.exists_of (h : Issued k) : ∃ e i, k = .of e i := by
  cases h with
  | read h =>
    obtain ⟨name, id, e, -, -, rfl⟩ := readQuery_eq_ok_iff.mp h
    exact ⟨e, id, rfl⟩
  | patched m createdAt h =>
    have hkeys := List.mem_map_of_mem (f := Prod.fst) h
    rw [CatalogueMutation.keys_patches] at hkeys
    exact exists_of_mem_keysFor hkeys
  | dependent m d h => exact exists_of_mem_keysFor h

/-- The display tells the keys of the program apart. -/
theorem Issued.display_injective (h : Issued k) (h' : Issued k')
    (hdisplay : k.display = k'.display) : k = k' := by
  obtain ⟨e, i, rfl⟩ := h.exists_of
  obtain ⟨f, j, rfl⟩ := h'.exists_of
  exact QueryKey.display_of_injective hdisplay

/-! ## The cache as it is shown -/

/-- An object that shows every entry of a store once, under the display of its key. -/
structure ShowsEntries (s : Store) (v : Json) : Prop where
  members : ∃ members, v = .object members ∧
    members.Perm (s.entries.map fun p => (p.1.display, p.2.value.toJson))
  displays : (s.keys.map QueryKey.display).Nodup
  value : ∀ k e, s.entryAt? k = some e → v.get? k.display = some e.value.toJson

variable {s : Store}

/-- Keys that can be issued are shown differently. -/
theorem nodup_displays (hnodup : s.keys.Nodup) (hkeys : ∀ k ∈ s.keys, Issued k) :
    (s.keys.map QueryKey.display).Nodup :=
  List.Nodup.map_on (fun k hk k' hk' => (hkeys k hk).display_injective (hkeys k' hk')) hnodup

/-- A store whose keys are those of the program is shown entry by entry. -/
theorem showsEntries_cacheJson (hnodup : s.keys.Nodup) (hkeys : ∀ k ∈ s.keys, Issued k) :
    ShowsEntries s (cacheJson s) := by
  have hdump : (s.dump.map fun p => (p.1.display, p.2.toJson)) =
      s.entries.map fun p => (p.1.display, p.2.value.toJson) := by
    rw [Store.dump, List.map_map]
    rfl
  have hnames : Table.keys (s.entries.map fun p => (p.1.display, p.2.value.toJson)) =
      s.keys.map QueryKey.display := by
    simp [Table.keys, Store.keys]
  have hdistinct := nodup_displays hnodup hkeys
  rw [cacheJson, hdump]
  rw [← hnames] at hdistinct
  constructor
  case members => exact ⟨_, rfl, Table.perm_ofList hdistinct⟩
  case displays => rwa [← hnames]
  case value =>
    intro k e he
    exact Json.get?_ofMembers_of_mem hdistinct
      (List.mem_map_of_mem (f := fun p : QueryKey × Entry => (p.1.display, p.2.value.toJson))
        (Table.mem_of_get? he))

/-! ## The program -/

/-- The clients that the program has on its way: one with an empty cache, and what reading a query
or running a mutation of the catalogue makes of a client. -/
inductive Driven : Client → Prop
  | idle (staleTime : Option Nat) : Driven { store := Store.empty staleTime }
  | fetched {c : Client} {query : String} {k : QueryKey} (h : Driven c)
      (hk : readQuery query = .ok k) (b : Backend) (now : Int) : Driven (c.fetchQuery b k now).2
  | mutated {c : Client} (h : Driven c) (m : CatalogueMutation) (createdAt : String) (b : Backend)
      (now : Int) : Driven (c.mutate b (m.toMutation createdAt) now).2

variable {c : Client}

/-- No key has two entries in the cache of the program. -/
theorem Driven.nodup (h : Driven c) : c.store.keys.Nodup := by
  have hsorted : Table.Sorted c.store.entries := by
    induction h with
    | idle staleTime => exact Table.sorted_nil
    | fetched _ _ b now ih => exact Client.sorted_fetchQuery ih b _ now
    | mutated _ m createdAt b now ih => exact Client.sorted_mutate ih b _ now
  exact hsorted.nodup

/-- The cache of the program has keys of queries on the command line and of the catalogue only. -/
theorem Driven.issued (h : Driven c) : ∀ k ∈ c.store.keys, Issued k := by
  induction h with
  | idle staleTime => exact List.forall_mem_nil _
  | @fetched c query k _ hk b now ih =>
    intro k' hk'
    rcases Client.mem_keys_fetchQuery hk' with rfl | hold
    · exact .read hk
    · exact ih k' hold
  | @mutated c _ m createdAt b now ih =>
    intro k hk
    by_cases hpatched : k ∈ (m.toMutation createdAt).patches.map Prod.fst
    · obtain ⟨p, hp, rfl⟩ := List.mem_map.mp hpatched
      exact .patched m createdAt hp
    · by_cases hdependent : k ∈ c.dependencies.keysFor m.kind m.scope
      · exact .dependent m c.dependencies hdependent
      · have hentry : (c.mutate b (m.toMutation createdAt) now).2.store.entryAt? k =
            c.store.entryAt? k :=
          Client.entryAt?_mutate_of_not_mem hpatched hdependent
        exact ih k ((Store.mem_keys_congr hentry).mp hk)

/-! ### What is printed -/

/-- The program ends with an outcome, if its calls get some answers. -/
inductive Program.Ends : Program → Outcome → Prop
  | finished (o : Outcome) : Ends (.finished o) o
  | answered {call : Call} {resume : Except BackendFailure Envelope → Program} {o : Outcome}
      (answer : Except BackendFailure Envelope) (h : Ends (resume answer) o) :
      Ends (.waiting call resume) o

/-- What an outcome prints: nothing, or the cache of the program, which may stand behind the report
of a mutation that was committed. -/
inductive Outcome.Shows (o : Outcome) : Prop
  | nothing (h : o.output = "")
  | cache {c : Client} (hc : Driven c) (h : o.output = listing c)
  | report {c : Client} (hc : Driven c) (kind : MutationKind) (settlement : Settlement)
      (h : o.output = committed kind settlement ++ listing c)

variable {o : Outcome} {now : Int}

/-- A finished program ends with its outcome. -/
theorem eq_of_ends_finished {o' : Outcome} (h : (Program.finished o').Ends o) : o = o' := by
  cases h
  rfl

/-- A query that is fetched ends as what comes after a read by some backend. -/
theorem exists_of_ends_fetch {next : Except CacheError CacheValue → Client → Program}
    (h : (fetch c k now next).Ends o) :
    ∃ b, (next (c.fetchQuery b k now).1 (c.fetchQuery b k now).2).Ends o := by
  unfold fetch at h
  split at h
  · rename_i hpath
    refine ⟨Backend.answering (.error (.ofStatus 404 "")), ?_⟩
    rwa [Client.fetchQuery_of_no_path hpath]
  · cases h with
    | answered answer h => exact ⟨Backend.answering answer, h⟩

/-- A program that preloads queries shows what it holds if what follows does. -/
theorem shows_of_ends_preload {next : Client → Program}
    (hnext : ∀ c, Driven c → (next c).Ends o → o.Shows) {queries : List String} (hc : Driven c)
    (h : (preload now next queries c).Ends o) : o.Shows := by
  induction queries generalizing c with
  | nil => exact hnext c hc h
  | cons query rest ih =>
    rw [preload] at h
    split at h
    · obtain rfl := eq_of_ends_finished h
      exact .nothing rfl
    · rename_i k hk
      obtain ⟨b, hafter⟩ := exists_of_ends_fetch h
      split at hafter
      · exact ih (hc.fetched hk b now) hafter
      · obtain rfl := eq_of_ends_finished hafter
        exact .nothing rfl

/-- A program that mutates shows what it holds. -/
theorem shows_of_ends_mutate {m : CatalogueMutation} {createdAt : String} (hc : Driven c)
    (h : (mutate c (m.toMutation createdAt) now).Ends o) : o.Shows := by
  cases h with
  | answered answer h =>
    have hdriven := hc.mutated m createdAt (Backend.answering answer) now
    dsimp only at h
    split at h
    · rename_i outcome c' hmutate
      rw [hmutate] at hdriven
      obtain rfl := eq_of_ends_finished h
      exact .report hdriven _ outcome.settlement rfl
    · rename_i e c' hmutate
      rw [hmutate] at hdriven
      obtain rfl := eq_of_ends_finished h
      exact .cache hdriven rfl

/-- Every command shows what the store holds in the end. -/
theorem shows_of_ends_perform {createdAt : String} {command : Command} (hc : Driven c)
    (h : (perform now createdAt command c).Ends o) : o.Shows := by
  cases command with
  | mutate m => exact shows_of_ends_mutate hc h
  | fetch query =>
    simp only [perform] at h
    split at h
    · obtain rfl := eq_of_ends_finished h
      exact .nothing rfl
    · rename_i k hk
      obtain ⟨b, hafter⟩ := exists_of_ends_fetch h
      have hdriven := hc.fetched hk b now
      split at hafter
      · obtain rfl := eq_of_ends_finished hafter
        exact .cache hdriven rfl
      · obtain rfl := eq_of_ends_finished hafter
        exact .nothing rfl

/-- A connected client begins with an empty cache. -/
theorem driven_of_connect {config : Config} {endpoint : Endpoint}
    (h : config.connect = .ok (c, endpoint)) : Driven c := by
  unfold Config.connect at h
  cases hendpoint : config.endpoint with
  | error fault =>
    rw [hendpoint] at h
    cases h
  | ok e =>
    rw [hendpoint] at h
    obtain ⟨rfl, -⟩ := Prod.mk.inj (Except.ok.inj h)
    exact .idle config.staleTime

/-- Whatever the backend answers, all that the program ever prints of its cache is a cache of its
own. -/
theorem shows_of_ends {createdAt : String} {options : Options} {command : Command}
    {endpoint : Endpoint} {program : Program}
    (hstart : start now createdAt options command = .ok (endpoint, program))
    (h : program.Ends o) : o.Shows := by
  unfold start at hstart
  split at hstart
  · cases hstart
  · rename_i client endpoint' hconnect
    obtain ⟨-, rfl⟩ := Prod.mk.inj (Except.ok.inj hstart)
    have hdriven : Driven client := by
      cases hconfig : configOf options with
      | error fault =>
        rw [hconfig] at hconnect
        cases hconnect
      | ok config =>
        rw [hconfig] at hconnect
        exact driven_of_connect hconnect
    exact shows_of_ends_preload (fun c hc => shows_of_ends_perform hc) hdriven h

/-! ## Queries are kept apart -/

/-- A text is a query exactly if it has a colon and the part before the first one is an accepted
name; the part behind it is then the value of the identifying parameter, the only one of the key.
Two queries have one key exactly if their ids are equal and their names synonymous.  The display
tells all keys of the program apart, so that a store with such keys is shown entry by entry: the
object has one member for each entry, with the value of the entry.  No store has two entries for one
key, and the caches of the program have no other keys. -/
theorem queries_kept :
    (∀ query, (∃ k, readQuery query = .ok k) ↔
      ∃ name id, Parts query name id ∧ name ∈ kindNames) ∧
    (∀ query name id k, Parts query name id → readQuery query = .ok k →
      Names name k.entity ∧ k.params = [(k.entity.idParam, id)] ∧
        k.get? k.entity.idParam = some id) ∧
    (∀ query name id k query' name' id' k', Parts query name id → Parts query' name' id' →
      readQuery query = .ok k → readQuery query' = .ok k' →
      (k = k' ↔ id = id' ∧ Synonymous name name')) ∧
    (∀ k k', Issued k → Issued k' → k.display = k'.display → k = k') ∧
    (∀ s : Store, s.keys.Nodup → (∀ k ∈ s.keys, Issued k) → ShowsEntries s (cacheJson s)) ∧
    (∀ staleTime ts, ((Store.empty staleTime).proceedAll ts).keys.Nodup) ∧
    ∀ c, Driven c → c.store.keys.Nodup ∧ ∀ k ∈ c.store.keys, Issued k := by
  refine ⟨fun query => ?_, ?_, ?_, fun k k' h h' => h.display_injective h',
    fun s => showsEntries_cacheJson, Store.nodup_keys_proceedAll,
    fun c hc => ⟨hc.nodup, hc.issued⟩⟩
  · constructor
    · rintro ⟨k, hk⟩
      obtain ⟨name, id, e, hparts, hname, -⟩ := readQuery_eq_ok_iff.mp hk
      exact ⟨name, id, hparts, exists_names_iff.mp ⟨e, hname⟩⟩
    · rintro ⟨name, id, hparts, hname⟩
      obtain ⟨e, he⟩ := exists_names_iff.mpr hname
      exact ⟨.of e id, (readQuery_of_parts hparts).mpr ⟨e, he, rfl⟩⟩
  · intro query name id k hparts hk
    obtain ⟨e, he, rfl⟩ := (readQuery_of_parts hparts).mp hk
    exact ⟨he, rfl, QueryKey.get?_of e id⟩
  · intro query name id k query' name' id' k' hparts hparts' hk hk'
    obtain ⟨e, he, rfl⟩ := (readQuery_of_parts hparts).mp hk
    obtain ⟨f, hf, rfl⟩ := (readQuery_of_parts hparts').mp hk'
    rw [QueryKey.of_eq_iff, eq_iff_synonymous he hf]
    exact and_comm

/-- A project, and comments of a project whose id spells the rest of the display of the first one:
both are read, and both are shown. -/
theorem queries_kept_bracketed :
    let answer := Json.object [("id", .string "p1"), ("items", .array [])]
    let b := Backend.answering (.ok (Envelope.ok answer))
    let c : Client := { store := Store.empty none }
    let c' := (c.fetchQuery b (.project "p1") 0).2
    let c'' := (c'.fetchQuery b (.comments "p1],project[project_id=p1") 0).2
    c''.store.size = 2 ∧ ShowsEntries c''.store (cacheJson c''.store) := by
  intro answer b c c' c''
  have hproject : readQuery "project:p1" = .ok (.project "p1") := by decide +kernel
  have hcomments : readQuery "comments:p1],project[project_id=p1" =
      .ok (.comments "p1],project[project_id=p1") := by decide +kernel
  have hdriven : Driven c'' := (Driven.fetched (.idle none) hproject b 0).fetched hcomments b 0
  obtain ⟨-, -, -, -, hshown, -, hcaches⟩ := queries_kept
  obtain ⟨hnodup, hkeys⟩ := hcaches c'' hdriven
  exact ⟨by decide +kernel, hshown c''.store hnodup hkeys⟩

end CommandLine
end OptimisticCache
