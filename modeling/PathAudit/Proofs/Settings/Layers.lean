import PathAudit.Proofs.Json.Rereading
import PathAudit.Settings.Merge

/-! One layer of settings laid over another, told path by path. What a key holds afterwards depends
on what the two layers hold under it and on nothing else; from this comes what stands at the end of
a path of keys. A value above that is neither an object nor `null` is found where it stood; where
the layer above is silent, the one below is found as it was; and a layer laid twice is laid
once. -/
namespace PathAudit.Json

def at? : List String → Json → Option Json
  | [], v => some v
  | key :: path, v => (v.get? key).bind (at? path)

def ObjectsAlong (path : List String) (v : Json) : Prop :=
  ∀ part, part <+: path → part ≠ path → ∃ members, v.at? part = some (.object members)

/-- A layer says nothing where it has no value or a `null`. -/
def Silent (found : Option Json) : Prop := found = none ∨ found = some .null

section Keys

/-- What a key holds when the layer below has `lower` under it and the one above `upper`. -/
def overlaid (lower : Option Json) : Option Json → Option Json
  | none | some .null => lower
  | some upper => some (lower.elim upper (merge · upper))

theorem overlaid_of_silent {lower upper : Option Json} (silent : Silent upper) :
    overlaid lower upper = lower := by
  rcases silent with rfl | rfl <;> rfl

theorem overlaid_of_given {upper : Json} (given : upper ≠ .null) (lower : Option Json) :
    overlaid lower (some upper) = some (lower.elim upper (merge · upper)) := by
  cases upper with
  | null => exact absurd rfl given
  | _ => rfl

theorem merge_of_not_object {upper : Json} (plain : ∀ members, upper ≠ .object members)
    (lower : Json) : merge lower upper = upper := by
  cases upper with
  | object members => exact absurd rfl (plain members)
  | _ => rfl

private def lay (key : String) (value : Json) (members : List (String × Json)) :
    List (String × Json) :=
  if value.isNull then members
  else putMember key ((members.lookup key).elim value (merge · value)) members

private theorem mergeMembers_cons (key : String) (value : Json)
    (members upper : List (String × Json)) :
    mergeMembers members ((key, value) :: upper) = mergeMembers (lay key value members) upper := by
  rw [mergeMembers, lay]
  cases members.lookup key <;> rfl

private theorem lookup_lay (key other : String) (value : Json) (members : List (String × Json)) :
    (lay key value members).lookup other =
      if other = key then overlaid (members.lookup key) (some value) else members.lookup other := by
  cases value with
  | null =>
    split
    next same => rw [same]; rfl
    next => rfl
  | _ => exact lookup_putMember key other _ members

theorem lookup_mergeMembers {upper : List (String × Json)} (increasing : Increasing upper)
    (members : List (String × Json)) (key : String) :
    (mergeMembers members upper).lookup key =
      overlaid (members.lookup key) (upper.lookup key) := by
  induction upper generalizing members with
  | nil => rfl
  | cons first upper ih =>
    obtain ⟨k, value⟩ := first
    obtain ⟨least, others⟩ := List.pairwise_cons.mp increasing
    rw [mergeMembers_cons, ih others, lookup_lay, List.lookup_cons]
    by_cases same : key = k
    · -- Further up the list the key does not occur again.
      have absent : upper.lookup key = none := lookup_of_least (same ▸ least)
      rw [if_pos same, absent, same, beq_self_eq_true]
      exact overlaid_of_silent (.inl rfl)
    · rw [if_neg same, beq_false_of_ne same]

end Keys

section Order

theorem Ordered.lookup {members : List (String × Json)} (ordered : OrderedMembers members)
    {key : String} {value : Json} (found : members.lookup key = some value) : value.Ordered := by
  obtain ⟨before, after, rfl, -⟩ := List.lookup_eq_some_iff.mp found
  exact (orderedMembers_iff _).mp ordered (key, value) (List.mem_append_right _ List.mem_cons_self)

mutual

theorem ordered_merge {lower upper : Json} (below : lower.Ordered) (above : upper.Ordered) :
    (lower.merge upper).Ordered := by
  cases upper with
  | object upper =>
    cases lower with
    | object members => exact ordered_onward below above.2
    | _ => exact above
  | _ => exact above

private theorem ordered_onward {members upper : List (String × Json)}
    (below : Ordered (.object members)) (above : OrderedMembers upper) :
    Ordered (.object (mergeMembers members upper)) := by
  cases upper with
  | nil => exact below
  | cons first upper =>
    obtain ⟨key, value⟩ := first
    rw [mergeMembers_cons]
    refine ordered_onward ?_ above.2
    unfold lay
    split
    next => exact below
    next =>
      refine ⟨increasing_putMember key _ below.1, (orderedMembers_iff _).mpr ?_⟩
      intro member placed
      rcases mem_of_mem_putMember placed with rfl | held
      · cases found : members.lookup key with
        | none => exact above.1
        | some old => exact ordered_merge (Ordered.lookup below.2 found) above.1
      · exact (orderedMembers_iff _).mp below.2 member held

end

theorem ordered_mergeMembers {members upper : List (String × Json)}
    (below : Ordered (.object members)) (above : Ordered (.object upper)) :
    Ordered (.object (mergeMembers members upper)) := ordered_merge below above

end Order

section Repetition

/-- A value laid over itself is a value laid twice over nothing. -/
private theorem merge_self_of_again {v : Json}
    (again : (merge .null v).merge v = merge .null v) : v.merge v = v := by
  have null : merge .null v = v := by cases v <;> rfl
  rwa [null] at again

private theorem mergeMembers_eq_self {members upper : List (String × Json)}
    (ordered : Ordered (.object members)) (above : Ordered (.object upper))
    (held : ∀ key value, upper.lookup key = some value → value ≠ .null →
      ∃ old, members.lookup key = some old ∧ merge old value = old) :
    mergeMembers members upper = members := by
  refine (ordered_mergeMembers ordered above).1.ext ordered.1 fun key => ?_
  rw [lookup_mergeMembers above.1]
  by_cases silent : Silent (upper.lookup key)
  · exact overlaid_of_silent silent
  · obtain ⟨none, given⟩ := not_or.mp silent
    obtain ⟨value, found⟩ := Option.ne_none_iff_exists'.mp none
    rw [found] at given ⊢
    have notNull : value ≠ .null := fun null => given (congrArg some null)
    obtain ⟨old, here, kept⟩ := held key value found notNull
    rw [overlaid_of_given notNull, here, Option.elim_some, kept]

mutual

theorem merge_merge {lower upper : Json} (below : lower.Ordered) (above : upper.Ordered) :
    (lower.merge upper).merge upper = lower.merge upper := by
  cases upper with
  | object upper =>
    cases lower with
    | object members =>
      refine congrArg object (mergeMembers_eq_self (ordered_mergeMembers below above) above ?_)
      intro key value found given
      refine ⟨_, by rw [lookup_mergeMembers above.1, found, overlaid_of_given given], ?_⟩
      cases old : members.lookup key with
      | some old => exact merge_merge_member above.2 found (Ordered.lookup below.2 old)
      | none => exact merge_self_of_again (merge_merge_member above.2 found trivial)
    | _ =>
      refine congrArg object (mergeMembers_eq_self above above fun key value found _ => ?_)
      exact ⟨value, found, merge_self_of_again (merge_merge_member above.2 found trivial)⟩
  | _ => rfl

theorem merge_merge_member {upper : List (String × Json)} (above : OrderedMembers upper)
    {key : String} {value : Json} (found : upper.lookup key = some value) {lower : Json}
    (below : lower.Ordered) : (lower.merge value).merge value = lower.merge value := by
  cases upper with
  | nil => contradiction
  | cons first upper =>
    obtain ⟨k, held⟩ := first
    rw [List.lookup_cons] at found
    split at found
    · exact Option.some.inj found ▸ merge_merge below above.1
    · exact merge_merge_member above.2 found below

end

end Repetition

section Paths
variable {lower upper : List (String × Json)}

private theorem at?_singleton (key : String) (v : Json) : v.at? [key] = v.get? key :=
  Option.bind_fun_some (v.get? key)

private theorem ObjectsAlong.first {key : String} {path : List String} (longer : path ≠ [])
    (along : ObjectsAlong (key :: path) (object lower)) :
    ∃ inner, lower.lookup key = some (object inner) := by
  have short : [key] ≠ key :: path := fun same => longer (List.cons.inj same).2.symm
  obtain ⟨inner, found⟩ := along [key] (List.prefix_append [key] path) short
  rw [at?_singleton] at found
  exact ⟨inner, found⟩

private theorem ObjectsAlong.inside {key : String} {path : List String} {inner : Json}
    (along : ObjectsAlong (key :: path) (object lower)) (held : lower.lookup key = some inner) :
    inner.ObjectsAlong path := by
  intro part within short
  have onward := along (key :: part) (List.cons_prefix_cons.mpr ⟨rfl, within⟩)
    fun same => short (List.cons.inj same).2
  simpa only [at?, get?, held, Option.bind_some] using onward

theorem at?_merge_of_plain {upper : Json} (above : upper.Ordered) {path : List String}
    {value : Json} (found : upper.at? path = some value) (given : value ≠ .null)
    (plain : ∀ members, value ≠ .object members) (lower : Json) :
    (lower.merge upper).at? path = some value := by
  induction path generalizing lower upper with
  | nil =>
    cases Option.some.inj found
    exact congrArg some (merge_of_not_object plain lower)
  | cons key path ih =>
    obtain ⟨inner, held, within⟩ := Option.bind_eq_some_iff.mp found
    have notNull : inner ≠ .null := by
      rintro rfl
      cases path with
      | nil => exact given (Option.some.inj within).symm
      | cons key path => contradiction
    cases upper with
    | object upper =>
      cases lower with
      | object lower =>
        have both : (mergeMembers lower upper).lookup key =
            some ((lower.lookup key).elim inner (merge · inner)) := by
          rw [lookup_mergeMembers above.1, ← overlaid_of_given notNull]
          exact congrArg _ held
        refine Option.bind_eq_some_iff.mpr ⟨_, both, ?_⟩
        cases lower.lookup key with
        | none => exact within
        | some old => exact ih (Ordered.lookup above.2 held) within old
      | _ => exact Option.bind_eq_some_iff.mpr ⟨inner, held, within⟩
    | _ => contradiction

theorem at?_merge_of_silent (above : Ordered (.object upper)) {part path : List String}
    (within : part <+: path) (silent : Silent ((object upper).at? part))
    (belowAlong : ObjectsAlong part (object lower))
    (aboveAlong : ObjectsAlong part (object upper)) :
    ((object lower).merge (object upper)).at? path = (object lower).at? path := by
  obtain ⟨rest, rfl⟩ := within
  induction part generalizing lower upper with
  | nil => exact absurd silent (not_or.mpr ⟨nofun, nofun⟩)
  | cons key part ih =>
    have both := lookup_mergeMembers above.1 lower key
    by_cases here : Silent (upper.lookup key)
    · rw [overlaid_of_silent here] at both
      exact congrArg (Option.bind · (at? (part ++ rest))) both
    · have longer : part ≠ [] := by
        rintro rfl
        rw [at?_singleton] at silent
        exact here silent
      -- The two layers hold objects here, which are merged in turn.
      obtain ⟨old, below⟩ := belowAlong.first longer
      obtain ⟨new, held⟩ := aboveAlong.first longer
      have given : object new ≠ .null := nofun
      rw [held, below, overlaid_of_given given, Option.elim_some] at both
      have inner : Silent ((object new).at? part) := by
        simpa only [at?, get?, held, Option.bind_some] using silent
      have onward := ih (Ordered.lookup above.2 held) inner (belowAlong.inside below)
        (aboveAlong.inside held)
      simpa only [List.cons_append, at?, merge, get?, both, below, Option.bind_some] using onward

end Paths

/-- What the upper of two layers gives, and where it gives nothing. A value of its own that is
neither an object nor `null` is found at its path. Where a path passes a key that the upper layer
leaves out or gives as `null`, and the two layers agree on objects up to there, what the lower layer
has at the path is found, if it has anything. The upper layer changes nothing when it is laid a
second time. -/
theorem merge_by_path {lower upper : List (String × Json)} (below : Ordered (.object lower))
    (above : Ordered (.object upper)) :
    let merged := (object lower).merge (object upper)
    (∀ path value, (object upper).at? path = some value → value ≠ .null →
      (∀ members, value ≠ .object members) → merged.at? path = some value) ∧
    (∀ part path, part <+: path → Silent ((object upper).at? part) →
      ObjectsAlong part (object lower) → ObjectsAlong part (object upper) →
      merged.at? path = (object lower).at? path) ∧
    merged.merge (object upper) = merged := by
  refine ⟨?_, ?_, merge_merge below above⟩
  · intro path value found given plain
    exact at?_merge_of_plain above found given plain (object lower)
  · intro part path within silent belowAlong aboveAlong
    exact at?_merge_of_silent above within silent belowAlong aboveAlong

private def base : List (String × Json) :=
  [("audit", .object [("annotate", .bool true), ("steps", .nat 100)]), ("retry", .nat 3)]

private def user : List (String × Json) :=
  [("audit", .object [("annotate", .null), ("steps", .nat 5)]), ("retry", .object [("cap", .null)])]

theorem merge_by_path_settings :
    Ordered (.object base) ∧ Ordered (.object user) ∧
    let merged := (object base).merge (object user)
    merged.at? ["audit", "steps"] = some (.nat 5) ∧
    ObjectsAlong ["audit", "annotate"] (object base) ∧
    ObjectsAlong ["audit", "annotate"] (object user) ∧
    merged.at? ["audit", "annotate"] = some (.bool true) ∧
    merged.at? ["audit", "annotate", "deep"] = none ∧
    merged.merge (object user) = merged := by
  have names : ["audit", "retry"].Pairwise (· < ·) := by decide
  have inner : ["annotate", "steps"].Pairwise (· < ·) := by decide
  have below : Ordered (.object base) :=
    ⟨names, ⟨inner, trivial, trivial, trivial⟩, trivial, trivial⟩
  have above : Ordered (.object user) :=
    ⟨names, ⟨inner, trivial, trivial, trivial⟩, ⟨List.pairwise_singleton _ _, trivial, trivial⟩,
      trivial⟩
  have along (members : List (String × Json)) (inside : List (String × Json))
      (held : members.lookup "audit" = some (.object inside)) :
      ObjectsAlong ["audit", "annotate"] (object members) := by
    intro part within short
    rcases part with _ | ⟨first, _ | ⟨second, rest⟩⟩
    · exact ⟨members, rfl⟩
    · obtain ⟨rfl, -⟩ := List.cons_prefix_cons.mp within
      exact ⟨inside, (at?_singleton _ _).trans held⟩
    · exact absurd (within.eq_of_length_le (by simp)) short
  have bases := along base _ rfl
  have users := along user _ rfl
  obtain ⟨given, silent, again⟩ := merge_by_path below above
  have quiet : Silent ((object user).at? ["audit", "annotate"]) := .inr rfl
  exact ⟨below, above, given _ _ rfl nofun nofun, bases, users,
    silent _ _ (List.prefix_refl _) quiet bases users,
    silent _ _ (List.prefix_append _ ["deep"]) quiet bases users, again⟩

end PathAudit.Json
