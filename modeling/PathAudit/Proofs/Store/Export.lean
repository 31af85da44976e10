import PathAudit.Proofs.Json.Indented
import PathAudit.Proofs.Store.Import

/-! Carrying records to another store. An export writes the latest record of each key, and a store
that imports the file from empty holds those records and no others, each with its sink described.
What the store orders by, the edges and the keys, is not touched by that, and a sink that is
described stays as it is: from the second store on nothing changes any more. -/
namespace PathAudit

def Sinks.described (entries : List (String × PathRecord)) : List (String × PathRecord) :=
  entries.map fun (key, r) => (key, seed r)

section Described
variable {entries : List (String × PathRecord)}

theorem Sinks.keys_described (entries : List (String × PathRecord)) :
    (described entries).map (·.1) = entries.map (·.1) := by
  rw [described, List.map_map]
  rfl

theorem Sinks.described_described (entries : List (String × PathRecord)) :
    described (described entries) = described entries := by
  rw [described, described, List.map_map]
  refine List.map_congr_left fun entry _ => ?_
  exact congrArg (Prod.mk entry.1) (seed_seed entry.2)

theorem Sinks.increasing_described (increasing : Increasing entries) :
    Increasing (described entries) := by
  rw [Increasing, keys_described]
  exact increasing

theorem Sinks.sorted_described (sorted : ∀ entry ∈ entries, entry.2.Sorted) :
    ∀ entry ∈ described entries, entry.2.Sorted := by
  intro entry member
  obtain ⟨given, listed, rfl⟩ := List.mem_map.mp member
  exact sorted_seed (sorted given listed)

end Described

section Text
variable {d : Dict PathRecord} (increasing : Increasing d.entries)
  (sorted : ∀ entry ∈ d.entries, entry.2.Sorted)
include increasing sorted

theorem Dict.ofText_pretty :
    (decoder PathRecord.decoder).ofText (d.toJson PathRecord.toJson).pretty = .ok d := by
  have plain (p : JsonNumber → Prop) : (d.toJson PathRecord.toJson).AllNumbers p := by
    refine (Json.allMembers_iff _).mpr fun member listed => ?_
    obtain ⟨entry, -, rfl⟩ := List.mem_map.mp listed
    exact PathRecord.allNumbers_toJson p entry.2
  have same : (d.toJson PathRecord.toJson).reread = d.toJson PathRecord.toJson :=
    Json.mapNumbers_of_fixed (plain _)
  have reads : decoder PathRecord.decoder .text (.ofJson (d.toJson PathRecord.toJson)) = .ok d :=
    decoder_toJson increasing fun entry member =>
      PathRecord.decoder_toJson (sorted entry member) .text
  rw [Decoder.ofText, PathAudit.ofText_pretty (plain _), same]
  simp only [reads, bind, Except.bind, Bool.false_eq_true, if_false]

theorem Store.recordsIn_written {files written : Files} {path : String}
    (wrote : files.writeText path (d.toJson PathRecord.toJson).pretty = .ok written) :
    recordsIn written path = .ok d := by
  rw [recordsIn, Files.readText_of_writeText wrote]
  simp only [Except.mapError, bind, Except.bind, Dict.ofText_pretty increasing sorted]

end Text

namespace Ledger

section Distinct
variable {news : Ledger} (distinct : (news.map (·.1)).Nodup)
include distinct

theorem latest_of_nodup : latest news = news.reverse := by
  induction news with
  | nil => rfl
  | cons entry news ih =>
    obtain ⟨key, r⟩ := entry
    obtain ⟨absent, others⟩ := List.nodup_cons.mp distinct
    have kept : news.reverse.filter (fun entry => entry.1 ≠ key) = news.reverse := by
      refine List.filter_eq_self.mpr fun entry member => decide_eq_true fun same => absent ?_
      exact List.mem_map.mpr ⟨entry, List.mem_reverse.mp member, same⟩
    rw [latest, ih others, kept, List.reverse_cons]

theorem revision_of_nodup {key : String} (member : key ∈ news.map (·.1)) :
    (rowsOf news key).map (·.revision) = [.int 1] := by
  obtain ⟨⟨_, r⟩, listed, rfl⟩ := List.mem_map.mp member
  have rows := rowsOf_append_of_mem [] distinct listed
  rw [List.append_nil] at rows
  rw [rows]
  rfl

end Distinct

section Rebuilding
variable {entries : List (String × PathRecord)}

theorem taken_nil (entries : List (String × PathRecord)) :
    taken [] entries = (Sinks.described entries).reverse := by
  have all : entries.filter (fun entry => isOpen [] entry.1) = entries :=
    List.filter_eq_self.mpr fun _ _ => rfl
  rw [taken, all]
  rfl

theorem byKey_of_increasing (increasing : Increasing entries) :
    byKey entries.reverse = entries := by
  have distinct : (entries.reverse.map (·.1)).Nodup := by
    rw [List.map_reverse, List.nodup_reverse]
    exact increasing.imp ne_of_lt
  have same : (byKey entries.reverse).Perm entries := by
    have kept := byKey_perm entries.reverse
    rwa [latest_of_nodup distinct, List.reverse_reverse] at kept
  refine same.eq_of_pairwise ?_ (List.pairwise_map.mp (increasing_byKey _))
    (List.pairwise_map.mp increasing)
  intro a b _ _ before after
  exact absurd before (lt_asymm after)

theorem pairwise_described {left : List (String × PathRecord)} (ordered : left.Pairwise Precedes) :
    (Sinks.described left).Pairwise Precedes := by
  refine List.pairwise_map.mpr (ordered.imp ?_)
  rintro ⟨k, a⟩ ⟨m, b⟩ before
  simpa [Precedes] using before

theorem Sorted.byKey {l : Ledger} (sorted : l.Sorted) : ∀ entry ∈ l.byKey, entry.2.Sorted :=
  fun (key, r) member => sorted.of_lookup ((l.mem_byKey_iff key r).mp member)

end Rebuilding

section Carried
variable (l : Ledger)

def carried : Ledger := (Sinks.described l.byKey).reverse

theorem byKey_carried : l.carried.byKey = Sinks.described l.byKey :=
  byKey_of_increasing (Sinks.increasing_described l.increasing_byKey)

theorem carried_carried : l.carried.carried = l.carried := by
  rw [carried, byKey_carried, Sinks.described_described, carried]

theorem keys_carried : l.carried.map (·.1) = (l.byKey.map (·.1)).reverse := by
  rw [carried, List.map_reverse, Sinks.keys_described]

theorem nodup_carried : (l.carried.map (·.1)).Nodup := by
  rw [keys_carried, List.nodup_reverse]
  exact l.increasing_byKey.imp ne_of_lt

theorem Sorted.carried {l : Ledger} (sorted : l.Sorted) : l.carried.Sorted := fun entry member =>
  Sinks.sorted_described sorted.byKey entry (List.mem_reverse.mp member)

theorem pending_carried : l.carried.pending = Sinks.described l.pending := by
  have undecided (entries : List (String × PathRecord)) :
      (Sinks.described entries).filter (fun entry => entry.2.conclusion = none) =
        Sinks.described (entries.filter fun entry => entry.2.conclusion = none) := by
    rw [Sinks.described, List.filter_map, Sinks.described]
    refine congrArg _ (List.filter_congr fun entry _ => ?_)
    simp
  have same : l.carried.pending.Perm (Sinks.described l.pending) := by
    have kept := l.carried.pending_perm
    rw [byKey_carried, undecided] at kept
    exact kept.trans (l.pending_perm.symm.map _)
  refine same.eq_of_pairwise ?_ (pairwise_pending _) (pairwise_described l.pairwise_pending)
  intro a b _ _ before after
  exact absurd before (precedes_asymm after)

end Carried

end Ledger

namespace Store
variable {s : Store}

def exported (entries : List (String × PathRecord)) : String :=
  (Dict.toJson PathRecord.toJson ⟨entries⟩).pretty

theorem Holds.exportText {l : Ledger} (holds : s.Holds l) (sorted : l.Sorted) :
    s.exportText = .ok (l.byKey.length, exported l.byKey) := by
  have whole : Dict.ofList l.byKey = ⟨l.byKey⟩ := Dict.ofList_entries l.increasing_byKey
  rw [Store.exportText, holds.latest sorted]
  simp only [bind, Except.bind, whole]
  rfl

theorem exportFile_of_text {count : Nat} {text : String} (told : s.exportText = .ok (count, text))
    {files written : Files} {path : String} (wrote : files.writeText path text = .ok written) :
    s.exportFile files path = .ok (count, written) := by
  rw [exportFile, told]
  simp only [bind, Except.bind, wrote, Except.mapError]
  rfl

theorem Holds.importFile_exported (empty : s.Holds []) {l : Ledger} (sorted : l.Sorted)
    {files written : Files} {path : String}
    (wrote : files.writeText path (exported l.byKey) = .ok written) :
    ∃ rebuilt summary, s.importFile written path = .ok (rebuilt, summary) ∧
      rebuilt.Holds l.carried := by
  have distinct : (l.byKey.map (·.1)).Nodup := l.increasing_byKey.imp ne_of_lt
  have room : Ledger.HasRoom [] l.byKey := fun _ _ _ => (by decide : 0 + 1 < 2 ^ 63)
  have read : recordsIn written path = .ok ⟨l.byKey⟩ :=
    recordsIn_written l.increasing_byKey sorted.byKey wrote
  obtain ⟨⟨rebuilt, summary⟩, imported⟩ : ∃ result, s.importRecords ⟨l.byKey⟩ = .ok result :=
    (empty.importRecords_eq_ok_iff distinct).mpr room
  obtain ⟨held, -⟩ := empty.importEntries_eq_ok distinct imported
  rw [Ledger.taken_nil, List.append_nil] at held
  refine ⟨rebuilt, summary, ?_, held⟩
  rw [importFile_eq, read]
  exact imported

end Store

/-- Whatever was saved and imported, the records can be exported, and where the file can be written,
any store without records imports it. The new store shows the same keys, each with the old record
with its sink described and at its first revision; the same keys are pending, in the same order. And
when the new store is exported, imported by one more and exported from there, the two exports are
the same. -/
theorem export_rebuilds (submissions : List Submission) (sorted : ∀ x ∈ submissions, x.Sorted) :
    let s := Store.taking submissions
    ∃ entries left text, s.latest = .ok entries ∧ s.pending = .ok left ∧
      s.exportText = .ok (entries.length, text) ∧
      ∀ files path written (fresh : Store), files.writeText path text = .ok written →
        fresh.records = [] →
        s.exportFile files path = .ok (entries.length, written) ∧
        ∃ rebuilt summary, fresh.importFile written path = .ok (rebuilt, summary) ∧
          rebuilt.latest = .ok (entries.map fun (key, r) => (key, Sinks.seed r)) ∧
          (∀ key ∈ entries.map (·.1),
            (rebuilt.revisionsOf key).map (·.revision) = [.int 1]) ∧
          rebuilt.pending = .ok (left.map fun (key, r) => (key, Sinks.seed r)) ∧
          ∃ second, rebuilt.exportText = .ok (entries.length, second) ∧
            ∀ files path written (other : Store), files.writeText path second = .ok written →
              other.records = [] →
              rebuilt.exportFile files path = .ok (entries.length, written) ∧
              ∃ again summary, other.importFile written path = .ok (again, summary) ∧
                ∀ files path, again.exportFile files path = rebuilt.exportFile files path := by
  intro s
  let l := Ledger.taking submissions
  have holds : s.Holds l := holds_taking submissions
  have fine : l.Sorted := Ledger.sorted_taking sorted
  have told := holds.exportText fine
  refine ⟨l.byKey, l.pending, _, holds.latest fine, holds.pending fine, told, ?_⟩
  intro files path written fresh wrote empty
  obtain ⟨rebuilt, summary, imported, held⟩ := Store.Holds.importFile_exported empty fine wrote
  have secondTold : rebuilt.exportText = .ok (l.byKey.length, Store.exported l.carried.byKey) := by
    rw [held.exportText fine.carried, l.byKey_carried, Sinks.described, List.length_map]
  refine ⟨Store.exportFile_of_text told wrote, rebuilt, summary, imported, ?_, ?_, ?_, _,
    secondTold, ?_⟩
  · rw [held.latest fine.carried, l.byKey_carried]
    rfl
  · intro key member
    rw [held.revisionsOf]
    refine Ledger.revision_of_nodup l.nodup_carried ?_
    rwa [l.keys_carried, List.mem_reverse]
  · rw [held.pending fine.carried, l.pending_carried]
    rfl
  · intro files path written other wrote empty
    obtain ⟨again, summary, imported, same⟩ :=
      Store.Holds.importFile_exported empty fine.carried wrote
    rw [l.carried_carried] at same
    have thirdTold : again.exportText = rebuilt.exportText := by
      rw [same.exportText fine.carried, held.exportText fine.carried]
    refine ⟨Store.exportFile_of_text secondTold wrote, again, summary, imported, ?_⟩
    intro files path
    rw [Store.exportFile, thirdTold, Store.exportFile]

theorem export_rebuilds_evaluating :
    let decided : PathRecord := { evaluating with conclusion := some true }
    let s := Store.taking [.one "b" evaluating, .one "a" decided, .one "b" evaluating]
    (s.revisionsOf "b").map (·.revision) = [.int 1, .int 2] ∧
    ∃ written rebuilt summary shown, s.exportFile {} "audit.json" = .ok (2, written) ∧
      ({} : Store).importFile written "audit.json" = .ok (rebuilt, summary) ∧
      rebuilt.latest = .ok shown ∧ shown.length = 2 ∧ ("a", Sinks.seed decided) ∈ shown ∧
      ("b", Sinks.seed evaluating) ∈ shown ∧
      (rebuilt.revisionsOf "b").map (·.revision) = [.int 1] := by
  intro decided s
  have plain : evaluating.Sorted := .nil
  have sorted : ∀ x ∈ [Submission.one "b" evaluating, .one "a" decided, .one "b" evaluating],
      x.Sorted := by
    simpa using ⟨plain, plain, plain⟩
  let l : Ledger := [("b", evaluating), ("a", decided), ("b", evaluating)]
  have holds : s.Holds l := holds_taking _
  have fine : l.Sorted := Ledger.sorted_taking sorted
  have two : l.byKey.length = 2 := l.byKey_perm.length_eq
  obtain ⟨entries, left, text, latest, -, -, carried⟩ := export_rebuilds _ sorted
  obtain rfl : entries = l.byKey := Except.ok.inj (latest.symm.trans (holds.latest fine))
  obtain ⟨written, wrote⟩ : ∃ written,
      ({} : Files).writeText "audit.json" text = .ok written := ⟨_, rfl⟩
  obtain ⟨exported, rebuilt, summary, imported, shown, numbered, -⟩ :=
    carried {} "audit.json" written {} wrote rfl
  rw [two] at exported
  have first : ("a", decided) ∈ l.byKey := (l.mem_byKey_iff _ _).mpr rfl
  have second : ("b", evaluating) ∈ l.byKey := (l.mem_byKey_iff _ _).mpr rfl
  refine ⟨?_, written, rebuilt, summary, _, exported, imported, shown, ?_, ?_, ?_, ?_⟩
  · rw [holds.numbered]
    rfl
  · rw [List.length_map, two]
  · exact List.mem_map.mpr ⟨_, first, rfl⟩
  · exact List.mem_map.mpr ⟨_, second, rfl⟩
  · exact numbered "b" (List.mem_map.mpr ⟨_, second, rfl⟩)

end PathAudit
