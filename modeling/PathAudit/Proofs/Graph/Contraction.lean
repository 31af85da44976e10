import PathAudit.Proofs.Graph.Reachability
import Mathlib.Data.Finset.Card

/-! Folding a linear chain into one edge. The check looks at one intermediate at a time; what it
implies for the whole graph is that the edges of the chain are exactly those that touch an
intermediate. From this follow the nodes and the paths of the folded graph. -/
namespace PathAudit.CompressPlan
open CallGraph

def links (start : FunctionId) (intermediates : List FunctionId) (finish : FunctionId) :
    List (FunctionId × FunctionId) :=
  steps (start :: (intermediates ++ [finish]))

structure Foldable (g : CallGraph) (start : FunctionId) (intermediates : List FunctionId)
    (finish : FunctionId) : Prop where
  nonempty : intermediates ≠ []
  linked : ∀ p ∈ links start intermediates finish, p ∈ g.pairs
  linear : findBranching g start (intermediates ++ [finish]) = none
  fresh : (start, finish) ∉ g.pairs

def folded (g : CallGraph) (start : FunctionId) (intermediates : List FunctionId)
    (finish : FunctionId) (label : String) : CallGraph :=
  ⟨(g.edges.filter fun e => e.pair ∉ links start intermediates finish) ++
    [⟨start, finish, fillLabel label start intermediates finish⟩]⟩

section Steps

theorem map_fst_steps (names : List FunctionId) :
    (steps names).map Prod.fst = names.dropLast := by
  fun_induction steps names with
  | case1 a b rest ih => simp [ih]
  | case2 names short =>
    match names with
    | [] | [_] => rfl
    | a :: b :: rest => exact absurd rfl (short a b rest)

theorem map_snd_steps (names : List FunctionId) : (steps names).map Prod.snd = names.tail := by
  fun_induction steps names with
  | case1 a b rest ih => simp [ih]
  | case2 names short =>
    match names with
    | [] | [_] => rfl
    | a :: b :: rest => exact absurd rfl (short a b rest)

theorem map_fst_links (start : FunctionId) (intermediates : List FunctionId)
    (finish : FunctionId) :
    (links start intermediates finish).map Prod.fst = start :: intermediates := by
  rw [links, map_fst_steps, ← List.cons_append, List.dropLast_concat]

theorem map_snd_links (start : FunctionId) (intermediates : List FunctionId)
    (finish : FunctionId) :
    (links start intermediates finish).map Prod.snd = intermediates ++ [finish] := by
  rw [links, map_snd_steps, List.tail_cons]

variable {start finish : FunctionId} {intermediates : List FunctionId}

theorem links_cons (f : FunctionId) (rest : List FunctionId) :
    links start (f :: rest) finish = (start, f) :: links f rest finish := rfl

theorem fst_mem_of_link {p : FunctionId × FunctionId}
    (link : p ∈ links start intermediates finish) : p.1 = start ∨ p.1 ∈ intermediates := by
  have first : p.1 ∈ start :: intermediates := by
    rw [← map_fst_links start intermediates finish]
    exact List.mem_map_of_mem link
  exact List.mem_cons.mp first

theorem snd_mem_of_link {p : FunctionId × FunctionId}
    (link : p ∈ links start intermediates finish) : p.2 ∈ intermediates ∨ p.2 = finish := by
  have second : p.2 ∈ intermediates ++ [finish] := by
    rw [← map_snd_links start intermediates finish]
    exact List.mem_map_of_mem link
  simpa using second

theorem exists_link_from (start finish : FunctionId) {f : FunctionId}
    (inside : f = start ∨ f ∈ intermediates) : ∃ v, (f, v) ∈ links start intermediates finish := by
  have first : f ∈ (links start intermediates finish).map Prod.fst := by
    rw [map_fst_links]
    exact List.mem_cons.mpr inside
  obtain ⟨⟨u, v⟩, link, rfl⟩ := List.mem_map.mp first
  exact ⟨v, link⟩

theorem exists_link_to (start finish : FunctionId) {f : FunctionId}
    (inside : f ∈ intermediates ∨ f = finish) : ∃ u, (u, f) ∈ links start intermediates finish := by
  have second : f ∈ (links start intermediates finish).map Prod.snd := by
    rw [map_snd_links]
    simpa using inside
  obtain ⟨⟨u, v⟩, link, rfl⟩ := List.mem_map.mp second
  exact ⟨u, link⟩

theorem link_touches {p : FunctionId × FunctionId} (nonempty : intermediates ≠ [])
    (link : p ∈ links start intermediates finish) :
    p.1 ∈ intermediates ∨ p.2 ∈ intermediates := by
  obtain ⟨f, rest, rfl⟩ := List.exists_cons_of_ne_nil nonempty
  rw [links_cons] at link
  rcases List.mem_cons.mp link with rfl | later
  · exact Or.inr (by simp)
  · have first := fst_mem_of_link later
    exact Or.inl (by simpa using first)

end Steps

section Linear

private theorem linear_cons {g : CallGraph} {start f finish : FunctionId} {rest : List FunctionId}
    (linear : findBranching g start (f :: rest ++ [finish]) = none) :
    g.callers f = [start] ∧ (∃ v, g.callees f = [v]) ∧
      findBranching g f (rest ++ [finish]) = none := by
  obtain ⟨after, others, split⟩ : ∃ after others, rest ++ [finish] = after :: others := by
    cases rest <;> simp
  rw [List.cons_append, split, findBranching] at linear
  split at linear
  next only => exact ⟨only.1, ⟨after, only.2⟩, split ▸ linear⟩
  next => contradiction

variable {g : CallGraph} {start finish : FunctionId} {intermediates : List FunctionId}

theorem callers_of_linear (linear : findBranching g start (intermediates ++ [finish]) = none)
    {f : FunctionId} (inside : f ∈ intermediates) :
    ∃ u, g.callers f = [u] ∧ (u, f) ∈ links start intermediates finish := by
  induction intermediates generalizing start with
  | nil => simp at inside
  | cons first rest ih =>
    obtain ⟨callers, -, onward⟩ := linear_cons linear
    rw [links_cons]
    rcases List.mem_cons.mp inside with rfl | later
    · exact ⟨start, callers, List.mem_cons_self⟩
    · obtain ⟨u, only, link⟩ := ih onward later
      exact ⟨u, only, List.mem_cons_of_mem _ link⟩

theorem callees_of_linear (linear : findBranching g start (intermediates ++ [finish]) = none)
    {f : FunctionId} (inside : f ∈ intermediates) : ∃ v, g.callees f = [v] := by
  induction intermediates generalizing start with
  | nil => simp at inside
  | cons first rest ih =>
    obtain ⟨-, callees, onward⟩ := linear_cons linear
    rcases List.mem_cons.mp inside with rfl | later
    · exact callees
    · exact ih onward later

theorem nodup_of_linear (linear : findBranching g start (intermediates ++ [finish]) = none)
    (outside : start ∉ intermediates) : intermediates.Nodup := by
  induction intermediates generalizing start with
  | nil => exact List.nodup_nil
  | cons first rest ih =>
    obtain ⟨callers, -, onward⟩ := linear_cons linear
    have once : first ∉ rest := by
      -- A second visit would come from inside the chain, yet the only caller is the start.
      intro again
      obtain ⟨u, only, link⟩ := callers_of_linear onward again
      have same : u = start := by simpa [only] using callers
      have back := fst_mem_of_link link
      rw [same] at back
      exact outside (by simpa using back)
    exact List.nodup_cons.mpr ⟨once, ih onward once⟩

end Linear

/-- Where one end of a link into the chain's inside tells the link, there are as many links as
intermediates exactly when the outermost end is an intermediate itself. -/
private theorem outer_mem_iff_card (links : List (FunctionId × FunctionId))
    (inner : List FunctionId) (outer : FunctionId) (side : FunctionId × FunctionId → FunctionId)
    (ends : ∀ f, f ∈ links.map side ↔ f = outer ∨ f ∈ inner)
    (apart : ∀ p ∈ links, ∀ q ∈ links, side p ∈ inner → side p = side q → p = q) :
    outer ∈ inner ↔ links.toFinset.card = inner.toFinset.card := by
  have count : (links.toFinset.filter fun p => side p ∈ inner).card = inner.toFinset.card := by
    apply Finset.card_nbij side
    · intro p member
      simpa using (Finset.mem_filter.mp member).2
    · intro p left q right same
      obtain ⟨first, inside⟩ := Finset.mem_filter.mp left
      obtain ⟨second, -⟩ := Finset.mem_filter.mp right
      exact apart p (List.mem_toFinset.mp first) q (List.mem_toFinset.mp second) inside same
    · intro f member
      have inside : f ∈ inner := List.mem_toFinset.mp member
      obtain ⟨p, link, rfl⟩ := List.mem_map.mp ((ends f).mpr (Or.inr inside))
      exact ⟨p, Finset.mem_filter.mpr ⟨List.mem_toFinset.mpr link, inside⟩, rfl⟩
  constructor
  · intro inside
    rw [← count, Finset.filter_true_of_mem]
    intro p link
    have member := (ends (side p)).mp (List.mem_map_of_mem (List.mem_toFinset.mp link))
    rcases member with same | member
    · rwa [same]
    · exact member
  · intro equal
    have all : links.toFinset.filter (fun p => side p ∈ inner) = links.toFinset :=
      Finset.eq_of_subset_of_card_le (Finset.filter_subset _ _) (by rw [count, equal])
    obtain ⟨p, link, rfl⟩ := List.mem_map.mp ((ends outer).mpr (Or.inl rfl))
    have kept := List.mem_toFinset.mpr link
    rw [← all] at kept
    exact (Finset.mem_filter.mp kept).2

section Foldable
variable {g : CallGraph} {start finish : FunctionId} {intermediates : List FunctionId}

theorem Foldable.eq_of_fst_eq (chain : Foldable g start intermediates finish)
    {p q : FunctionId × FunctionId} (first : p ∈ g.pairs) (second : q ∈ g.pairs)
    (inside : p.1 ∈ intermediates) (same : p.1 = q.1) : p = q := by
  obtain ⟨v, only⟩ := callees_of_linear chain.linear inside
  have left : p.2 = v := by simpa [only] using (mem_callees g p.1 p.2).mpr first
  have right : q.2 = v := by
    have callee := (mem_callees g q.1 q.2).mpr second
    rwa [← same, only, List.mem_singleton] at callee
  exact Prod.ext same (left.trans right.symm)

theorem Foldable.eq_of_snd_eq (chain : Foldable g start intermediates finish)
    {p q : FunctionId × FunctionId} (first : p ∈ g.pairs) (second : q ∈ g.pairs)
    (inside : p.2 ∈ intermediates) (same : p.2 = q.2) : p = q := by
  obtain ⟨u, only, -⟩ := callers_of_linear chain.linear inside
  have left : p.1 = u := by simpa [only] using (mem_callers g p.1 p.2).mpr first
  have right : q.1 = u := by
    have caller := (mem_callers g q.1 q.2).mpr second
    rwa [← same, only, List.mem_singleton] at caller
  exact Prod.ext (left.trans right.symm) same

theorem Foldable.mem_links_iff (chain : Foldable g start intermediates finish)
    {p : FunctionId × FunctionId} (edge : p ∈ g.pairs) :
    p ∈ links start intermediates finish ↔ p.1 ∈ intermediates ∨ p.2 ∈ intermediates := by
  constructor
  · exact link_touches chain.nonempty
  · rintro (leaves | enters)
    · obtain ⟨v, link⟩ := exists_link_from start finish (Or.inr leaves)
      rwa [chain.eq_of_fst_eq edge (chain.linked _ link) leaves rfl]
    · obtain ⟨u, link⟩ := exists_link_to start finish (Or.inl enters)
      rwa [chain.eq_of_snd_eq edge (chain.linked _ link) enters rfl]

theorem Foldable.caller_cases (chain : Foldable g start intermediates finish) {u f : FunctionId}
    (edge : (u, f) ∈ g.pairs) (inside : f ∈ intermediates) : u = start ∨ u ∈ intermediates :=
  fst_mem_of_link ((chain.mem_links_iff edge).mpr (Or.inr inside))

theorem Foldable.callee_cases (chain : Foldable g start intermediates finish) {f v : FunctionId}
    (edge : (f, v) ∈ g.pairs) (inside : f ∈ intermediates) : v ∈ intermediates ∨ v = finish :=
  snd_mem_of_link ((chain.mem_links_iff edge).mpr (Or.inl inside))

/-- The start is an intermediate exactly when the finish is one: the chain then runs round a cycle
that nothing enters or leaves. -/
theorem Foldable.start_mem_iff (chain : Foldable g start intermediates finish) :
    start ∈ intermediates ↔ finish ∈ intermediates := by
  have leaving := outer_mem_iff_card (links start intermediates finish) intermediates start Prod.fst
    (fun f => by rw [map_fst_links, List.mem_cons])
    (fun p first q second => chain.eq_of_fst_eq (chain.linked p first) (chain.linked q second))
  have entering := outer_mem_iff_card (links start intermediates finish) intermediates finish
    Prod.snd (fun f => by rw [map_snd_links, List.mem_append, List.mem_singleton, or_comm])
    (fun p first q second => chain.eq_of_snd_eq (chain.linked p first) (chain.linked q second))
  exact leaving.trans entering.symm

theorem Foldable.mem_pairs_folded (chain : Foldable g start intermediates finish) (label : String)
    (p : FunctionId × FunctionId) :
    p ∈ (folded g start intermediates finish label).pairs ↔
      (p ∈ g.pairs ∧ p.1 ∉ intermediates ∧ p.2 ∉ intermediates) ∨ p = (start, finish) := by
  have split : p ∈ (folded g start intermediates finish label).pairs ↔
      (p ∈ g.pairs ∧ p ∉ links start intermediates finish) ∨ p = (start, finish) := by
    simp only [folded, pairs, List.map_append, List.mem_append, List.mem_map, List.mem_filter,
      decide_eq_true_eq, List.map_cons, List.map_nil, List.mem_singleton]
    constructor
    · rintro (⟨e, ⟨inside, outside⟩, rfl⟩ | rfl)
      · exact Or.inl ⟨⟨e, inside, rfl⟩, outside⟩
      · exact Or.inr rfl
    · rintro (⟨⟨e, inside, rfl⟩, outside⟩ | rfl)
      · exact Or.inl ⟨e, ⟨inside, outside⟩, rfl⟩
      · exact Or.inr rfl
  rw [split]
  apply or_congr_left
  apply and_congr_right
  intro edge
  rw [chain.mem_links_iff edge, not_or]

theorem Foldable.eq_replacement (chain : Foldable g start intermediates finish) {label : String}
    {u v : FunctionId} (edge : (u, v) ∈ (folded g start intermediates finish label).pairs)
    (touches : u ∈ intermediates ∨ v ∈ intermediates) : u = start ∧ v = finish := by
  rcases (chain.mem_pairs_folded label (u, v)).mp edge with ⟨-, left, right⟩ | new
  · rcases touches with inside | inside
    · exact absurd inside left
    · exact absurd inside right
  · exact Prod.mk.inj new

theorem Foldable.contains_folded (chain : Foldable g start intermediates finish) (label : String)
    (f : FunctionId) : (folded g start intermediates finish label).contains f = true ↔
      (g.contains f = true ∧ f ∉ intermediates) ∨ f = start ∨ f = finish := by
  rw [contains_iff, contains_iff]
  constructor
  · rintro ⟨p, member, touches⟩
    rcases (chain.mem_pairs_folded label p).mp member with ⟨edge, left, right⟩ | rfl
    · refine Or.inl ⟨⟨p, edge, touches⟩, ?_⟩
      rcases touches with rfl | rfl
      · exact left
      · exact right
    · rcases touches with rfl | rfl
      · exact Or.inr (Or.inl rfl)
      · exact Or.inr (Or.inr rfl)
  · have new := (chain.mem_pairs_folded label (start, finish)).mpr (Or.inr rfl)
    rintro (⟨⟨p, edge, touches⟩, outside⟩ | rfl | rfl)
    · by_cases kept : p.1 ∉ intermediates ∧ p.2 ∉ intermediates
      · exact ⟨p, (chain.mem_pairs_folded label p).mpr (Or.inl ⟨edge, kept⟩), touches⟩
      · -- The edge is lost, so its other end lies inside and `f` is an end of the chain.
        refine ⟨_, new, ?_⟩
        have link := (chain.mem_links_iff edge).mpr (by tauto)
        rcases touches with rfl | rfl
        · exact Or.inl ((fst_mem_of_link link).resolve_right outside).symm
        · exact Or.inr ((snd_mem_of_link link).resolve_left outside).symm
    · exact ⟨_, new, Or.inl rfl⟩
    · exact ⟨_, new, Or.inr rfl⟩

end Foldable

theorem reaches_of_linked {g : CallGraph} {start finish : FunctionId}
    {intermediates : List FunctionId}
    (linked : ∀ p ∈ links start intermediates finish, p ∈ g.pairs) : g.Reaches start finish := by
  induction intermediates generalizing start with
  | nil => exact .single (linked _ List.mem_cons_self)
  | cons first rest ih =>
    rw [links_cons] at linked
    have onward := ih fun p link => linked p (List.mem_cons_of_mem _ link)
    exact .head (linked _ List.mem_cons_self) onward

section Paths
variable {g : CallGraph} {start finish : FunctionId} {intermediates : List FunctionId}
  {label : String}

theorem Foldable.reaches_of_folded (chain : Foldable g start intermediates finish)
    {u v : FunctionId} (path : (folded g start intermediates finish label).Reaches u v) :
    g.Reaches u v := by
  refine Relation.TransGen.closed ?_ _ _ path
  intro a b edge
  rcases (chain.mem_pairs_folded label (a, b)).mp edge with ⟨old, -⟩ | new
  · exact .single old
  · obtain ⟨rfl, rfl⟩ := Prod.mk.inj new
    exact reaches_of_linked chain.linked

/-- A path from outside the chain's inside, followed in the folded graph: at an intermediate the
new path waits at the start of the chain. -/
private theorem Foldable.follow (chain : Foldable g start intermediates finish) {u x : FunctionId}
    (outside : u ∉ intermediates) (path : g.Reaches u x) :
    (x ∉ intermediates → (folded g start intermediates finish label).Reaches u x) ∧
      (x ∈ intermediates → u = start ∨
        (folded g start intermediates finish label).Reaches u start) := by
  have keep (a b : FunctionId) (edge : (a, b) ∈ g.pairs) (left : a ∉ intermediates)
      (right : b ∉ intermediates) :
      (a, b) ∈ (folded g start intermediates finish label).pairs :=
    (chain.mem_pairs_folded label (a, b)).mpr (Or.inl ⟨edge, left, right⟩)
  have new := (chain.mem_pairs_folded label (start, finish)).mpr (Or.inr rfl)
  -- Both halves at once: a path leaves the inside at the finish, from where the start was reached.
  induction path with
  | @single x edge =>
    constructor
    · intro right
      exact .single (keep u x edge outside right)
    · intro inside
      exact Or.inl ((chain.caller_cases edge inside).resolve_right outside)
  | @tail x y _ edge ih =>
    constructor
    · intro right
      by_cases inside : x ∈ intermediates
      · have last := (chain.callee_cases edge inside).resolve_left right
        subst last
        rcases ih.2 inside with rfl | before
        · exact .single new
        · exact .tail before new
      · exact .tail (ih.1 inside) (keep x y edge inside right)
    · intro inside
      by_cases within : x ∈ intermediates
      · exact ih.2 within
      · have first := (chain.caller_cases edge inside).resolve_right within
        subst first
        exact Or.inr (ih.1 within)

theorem Foldable.reaches_iff (chain : Foldable g start intermediates finish) {u v : FunctionId}
    (left : u ∉ intermediates) (right : v ∉ intermediates) :
    (folded g start intermediates finish label).Reaches u v ↔ g.Reaches u v :=
  ⟨chain.reaches_of_folded, fun path => (chain.follow left path).1 right⟩

theorem Foldable.ends_of_reaches (chain : Foldable g start intermediates finish)
    {u v : FunctionId} (touches : u ∈ intermediates ∨ v ∈ intermediates)
    (path : (folded g start intermediates finish label).Reaches u v) :
    u = start ∧ v = finish := by
  induction path with
  | single edge => exact chain.eq_replacement edge touches
  | tail _ edge ih =>
    rcases touches with inside | inside
    · obtain ⟨rfl, rfl⟩ := ih (Or.inl inside)
      have within := chain.start_mem_iff.mp inside
      exact ⟨rfl, (chain.eq_replacement edge (Or.inl within)).2⟩
    · obtain ⟨rfl, rfl⟩ := chain.eq_replacement edge (Or.inr inside)
      exact ⟨(ih (Or.inr (chain.start_mem_iff.mpr inside))).1, rfl⟩

/-- Which joined functions stay joined: those outside the chain's inside, the ends of the chain, and
an end of the chain with itself. -/
theorem Foldable.joins_iff (chain : Foldable g start intermediates finish) {u v : FunctionId}
    (path : g.Joins u v) :
    (folded g start intermediates finish label).Joins u v ↔
      (u ∉ intermediates ∧ v ∉ intermediates) ∨ (u = start ∧ v = finish) ∨
        (u = v ∧ (u = start ∨ u = finish)) := by
  constructor
  · rintro (onward | ⟨rfl, node⟩)
    · by_cases outside : u ∉ intermediates ∧ v ∉ intermediates
      · exact Or.inl outside
      · exact Or.inr (Or.inl (chain.ends_of_reaches (by tauto) onward))
    · rcases (chain.contains_folded label u).mp node with ⟨-, outside⟩ | isEnd
      · exact Or.inl ⟨outside, outside⟩
      · exact Or.inr (Or.inr ⟨rfl, isEnd⟩)
  · rintro (⟨left, right⟩ | ⟨rfl, rfl⟩ | ⟨rfl, isEnd⟩)
    · rcases path with path | ⟨rfl, node⟩
      · exact Or.inl ((chain.reaches_iff left right).mpr path)
      · exact Or.inr ⟨rfl, (chain.contains_folded label u).mpr (Or.inl ⟨node, left⟩)⟩
    · exact Or.inl (.single ((chain.mem_pairs_folded label _).mpr (Or.inr rfl)))
    · exact Or.inr ⟨rfl, (chain.contains_folded label u).mpr (Or.inr isEnd)⟩

end Paths

private theorem find?_unlinked (g : CallGraph) (pairs : List (FunctionId × FunctionId)) :
    (pairs.find? fun (caller, callee) => !g.hasEdge caller callee) = none ↔
      ∀ p ∈ pairs, p ∈ g.pairs := by
  simp [List.find?_eq_none, hasEdge_iff]

theorem Foldable.known (g : CallGraph) {start finish : FunctionId} {intermediates : List FunctionId}
    (chain : Foldable g start intermediates finish) :
    (start :: intermediates ++ [finish]).filter (!g.contains ·) = [] := by
  have known (p : FunctionId × FunctionId) (link : p ∈ links start intermediates finish) :=
    contains_of_mem g p.1 p.2 (chain.linked p link)
  rw [List.filter_eq_nil_iff]
  intro f member
  simp only [List.cons_append, List.mem_cons, List.mem_append, List.not_mem_nil, or_false] at member
  rcases member with first | later
  · obtain ⟨v, link⟩ := exists_link_from start finish (Or.inl first)
    simpa using (known _ link).1
  · obtain ⟨u, link⟩ := exists_link_to start finish later
    simpa using (known _ link).2

theorem prepare_eq_ok_iff (g : CallGraph) (start : FunctionId) (intermediates : List FunctionId)
    (finish : FunctionId) (label : String) (plan : CompressPlan) :
    prepare g start intermediates finish label = .ok plan ↔
      Foldable g start intermediates finish ∧
        plan = ⟨links start intermediates finish,
          ⟨start, finish, fillLabel label start intermediates finish⟩⟩ := by
  constructor
  · intro prepared
    unfold prepare at prepared
    dsimp only at prepared
    split at prepared
    next => contradiction
    next some =>
    split at prepared
    next => contradiction
    next =>
    split at prepared
    next => contradiction
    next whole =>
    split at prepared
    next => contradiction
    next linear =>
    split at prepared
    next => contradiction
    next absent =>
    refine ⟨⟨?_, (find?_unlinked g _).mp whole, linear, ?_⟩, (Except.ok.inj prepared).symm⟩
    · simpa using some
    · rwa [hasEdge_iff] at absent
  · rintro ⟨chain, rfl⟩
    have some : intermediates.isEmpty = false := by simpa using chain.nonempty
    have whole := (find?_unlinked g _).mpr chain.linked
    have absent : g.hasEdge start finish = false := by
      rw [← Bool.not_eq_true, hasEdge_iff]
      exact chain.fresh
    have known :
        firstMentions ((start :: intermediates ++ [finish]).filter (!g.contains ·)) = [] := by
      rw [chain.known]
      rfl
    rw [links, ← List.cons_append] at whole
    simp only [prepare, some, known, whole, chain.linear, absent, List.isEmpty_nil, Bool.not_true,
      Bool.false_eq_true, if_false]
    rfl

theorem apply_prepared (g : CallGraph) (start : FunctionId) (intermediates : List FunctionId)
    (finish : FunctionId) (label : String) (plan : CompressPlan)
    (prepared : prepare g start intermediates finish label = .ok plan) :
    plan.apply g = .ok (folded g start intermediates finish label) := by
  obtain ⟨chain, rfl⟩ := (prepare_eq_ok_iff g start intermediates finish label plan).mp prepared
  have absent : (start, finish) ∉ (g.removeEdges (links start intermediates finish)).pairs := by
    rw [pairs, edges_removeEdges]
    intro member
    obtain ⟨e, kept, same⟩ := List.mem_map.mp member
    exact chain.fresh (same ▸ List.mem_map_of_mem (List.mem_filter.mp kept).1)
  have added := addEdge?_of_absent _
    ⟨start, finish, fillLabel label start intermediates finish⟩ absent
  simp only [apply, added, edges_removeEdges, folded]

theorem Foldable.length_removed {g : CallGraph} {start finish : FunctionId}
    {intermediates : List FunctionId} (chain : Foldable g start intermediates finish)
    (unique : g.pairs.Nodup) (outside : start ∉ intermediates) :
    (g.edges.filter fun e => e.pair ∈ links start intermediates finish).length =
      intermediates.length + 1 := by
  have distinct : (links start intermediates finish).Nodup := by
    apply List.Nodup.of_map Prod.fst
    rw [map_fst_links]
    exact List.nodup_cons.mpr ⟨outside, nodup_of_linear chain.linear outside⟩
  have same : (g.pairs.filter (· ∈ links start intermediates finish)).Perm
      (links start intermediates finish) := by
    apply (List.perm_ext_iff_of_nodup (unique.filter _) distinct).mpr
    intro p
    simpa using chain.linked p
  calc (g.edges.filter fun e => e.pair ∈ links start intermediates finish).length
      = (g.pairs.filter (· ∈ links start intermediates finish)).length := by
        rw [pairs, List.filter_map, List.length_map]
        rfl
    _ = ((links start intermediates finish).map Prod.fst).length := by
        rw [same.length_eq, List.length_map]
    _ = intermediates.length + 1 := by rw [map_fst_links, List.length_cons]

/-- Folding a chain whose ends lie outside it removes its edges and its intermediates and nothing
else, and no path between the functions that stay is won or lost. -/
theorem compress_contracts (g : CallGraph) (start : FunctionId) (intermediates : List FunctionId)
    (finish : FunctionId) (label : String) (plan : CompressPlan) (unique : g.pairs.Nodup)
    (startOutside : start ∉ intermediates) (finishOutside : finish ∉ intermediates)
    (prepared : prepare g start intermediates finish label = .ok plan) :
    ∃ next, plan.apply g = .ok next ∧
      next.edges = (g.edges.filter fun e => e.pair ∉ steps (start :: intermediates ++ [finish])) ++
        [⟨start, finish, fillLabel label start intermediates finish⟩] ∧
      intermediates.Nodup ∧
      (g.edges.filter fun e => e.pair ∈ steps (start :: intermediates ++ [finish])).length =
        intermediates.length + 1 ∧
      (∀ f, next.contains f = true ↔ g.contains f = true ∧ f ∉ intermediates) ∧
      ∀ u v, next.contains u = true → next.contains v = true →
        (next.Reaches u v ↔ g.Reaches u v) := by
  have applied := apply_prepared g start intermediates finish label plan prepared
  obtain ⟨chain, -⟩ := (prepare_eq_ok_iff g start intermediates finish label plan).mp prepared
  have nodes (f : FunctionId) :
      (folded g start intermediates finish label).contains f = true ↔
        g.contains f = true ∧ f ∉ intermediates := by
    have path := reaches_of_linked chain.linked
    rw [chain.contains_folded]
    constructor
    · rintro (both | rfl | rfl)
      · exact both
      · exact ⟨path.contains_left, startOutside⟩
      · exact ⟨path.contains_right, finishOutside⟩
    · exact Or.inl
  refine ⟨_, applied, rfl, nodup_of_linear chain.linear startOutside,
    chain.length_removed unique startOutside, nodes, ?_⟩
  intro u v left right
  exact chain.reaches_iff ((nodes u).mp left).2 ((nodes v).mp right).2

def entered : CallGraph :=
  ⟨[.calls "x" "a", .calls "a" "b", .calls "b" "c", .calls "c" "d", .calls "d" "a"]⟩

theorem compress_contracts_entered :
    ∃ plan next,
      prepare entered "a" ["b", "c"] "d" "via \x7bintermediate_functions\x7d" = .ok plan ∧
      plan.apply entered = .ok next ∧
      next.edges = [.calls "x" "a", .calls "d" "a", ⟨"a", "d", "via b -> c"⟩] ∧
      ∀ u v, next.contains u = true → next.contains v = true →
        (next.Reaches u v ↔ entered.Reaches u v) := by
  have prepared : prepare entered "a" ["b", "c"] "d" "via \x7bintermediate_functions\x7d" =
      .ok ⟨[("a", "b"), ("b", "c"), ("c", "d")], ⟨"a", "d", "via b -> c"⟩⟩ := by cbv
  obtain ⟨next, applied, edges, -, -, -, paths⟩ := compress_contracts entered "a" ["b", "c"] "d" _ _
    (by decide) (by decide) (by decide) prepared
  refine ⟨_, next, prepared, applied, edges.trans ?_, paths⟩
  cbv

end PathAudit.CompressPlan
