import Manbaa.Lib.Contract
import Manbaa.Lib.Table
import Mathlib.Data.List.Sort

/-!
# Pages of a list that grows

A reader asks for one page after the other, while rows are added anywhere in the list.  A row that
is there may only move to later pages, so that a reader who goes on until a page is short has met
every row that was there when the reading began.
-/

namespace Manbaa.Lib

universe u v w x

variable {ρ : Type u} {rows before after : List ρ} {row : ρ} {page limit : Nat}

/-- A page of a list; the first page has number 0. -/
def pageOf (rows : List ρ) (page limit : Nat) : List ρ := (rows.drop (page * limit)).take limit

/-- A row that is not on an earlier page is on this one or on a later one. -/
theorem mem_pageOf_or (rowMem : row ∈ rows.drop (page * limit)) :
    row ∈ pageOf rows page limit ∨ row ∈ rows.drop ((page + 1) * limit) := by
  have whole := List.take_append_drop limit (rows.drop (page * limit))
  rw [List.drop_drop, ← Nat.succ_mul] at whole
  rw [← whole] at rowMem
  exact List.mem_append.mp rowMem

/-- No page follows on a short one. -/
theorem drop_eq_nil_of_short (short : (pageOf rows page limit).length < limit) :
    rows.drop ((page + 1) * limit) = [] := by
  rw [pageOf, List.length_take, List.length_drop] at short
  apply List.drop_eq_nil_of_le
  rw [Nat.succ_mul]
  omega

theorem mem_of_mem_pageOf (rowMem : row ∈ pageOf rows page limit) : row ∈ rows :=
  List.mem_of_mem_drop (List.mem_of_mem_take rowMem)

/-- Sorting keeps the order in which rows of a table stand, whatever is added. -/
theorem sublist_insertionSort {κ : Type v} {key : ρ → κ} {precedes : ρ → ρ → Prop}
    [DecidableRel precedes] [Std.Total precedes] [IsTrans ρ precedes]
    (antisymm : ∀ first second, precedes first second → precedes second first →
      key first = key second)
    (keyed : Table.Keyed key after) (grown : before.Sublist after) :
    (before.insertionSort precedes).Sublist (after.insertionSort precedes) := by
  have inAfter : (before.insertionSort precedes).Subperm (after.insertionSort precedes) :=
    ((List.perm_insertionSort precedes before).subperm.trans grown.subperm).trans
      (List.perm_insertionSort precedes after).symm.subperm
  obtain ⟨middle, middlePerm, middleSublist⟩ := inAfter
  have middleSorted := (List.pairwise_insertionSort precedes after).sublist middleSublist
  have same : middle = before.insertionSort precedes := by
    apply List.Perm.eq_of_pairwise ?_ middleSorted (List.pairwise_insertionSort precedes before)
      middlePerm
    intro first second firstMem secondMem precedesSecond precedesFirst
    have firstStored := (List.mem_insertionSort precedes).mp (middleSublist.subset firstMem)
    have secondStored := grown.subset ((List.mem_insertionSort precedes).mp secondMem)
    exact keyed.eq firstStored secondStored (antisymm _ _ precedesSecond precedesFirst)
  exact same ▸ middleSublist

namespace Program

variable {σ : Type v} {ε : Type w} {α : Type x}

/-- Some pages one after the other, from one on. -/
def readPages (readPage : Nat → Program σ ε α) : Nat → Nat → Program σ ε (List α)
  | 0, _ => pure []
  | count + 1, page => do
      let first ← readPage page
      let rest ← readPages readPage count (page + 1)
      pure (first :: rest)

variable {contract : Contract σ} {readPage : Nat → Program σ ε α} {listing : σ → List ρ}
  {seen : σ}

/-- **A reader misses nothing.**  If rows only ever get in between, and each page is read from the
list at one moment, then a reader whose last page is short has met every row that was there; and all
that it has met has been there at some moment. -/
theorem readPages_safe (rowsOf : α → List ρ) (count page limit : Nat)
    (growing : ∀ earlier later, contract.valid later → contract.grows earlier later →
      (listing earlier).Sublist (listing later))
    (reads : ∀ page store, contract.valid store → (readPage page).Safe contract
      (fun answer found => ∃ moment, contract.valid moment ∧ contract.grows store moment ∧
        contract.grows moment found ∧ rowsOf answer = pageOf (listing moment) page limit) store)
    (valid : contract.valid seen) :
    (readPages readPage count page).Safe contract
      (fun answers _ =>
        (∀ row ∈ (listing seen).drop (page * limit),
          (∃ last ∈ answers.getLast?, (rowsOf last).length < limit) →
          ∃ answer ∈ answers, row ∈ rowsOf answer) ∧
        ∀ answer ∈ answers, ∀ row ∈ rowsOf answer, ∃ moment, row ∈ listing moment) seen := by
  induction count generalizing page seen with
  | zero =>
      apply safe_pure
      intro _ _ _
      refine ⟨?_, fun _ answerMem => absurd answerMem List.not_mem_nil⟩
      rintro _ _ ⟨last, lastEq, _⟩
      cases lastEq
  | succ count ih =>
      apply (reads page seen valid).bind valid
      rintro first store storeValid _ ⟨moment, momentValid, earlier, later, firstEq⟩
      apply (ih (page + 1) storeValid).bind storeValid
      rintro rest _ _ _ ⟨restComplete, restListed⟩
      apply safe_pure
      intro _ _ _
      constructor
      · rintro row rowMem ⟨last, lastEq, short⟩
        have moved := ((growing _ _ momentValid earlier).drop _).subset rowMem
        rcases mem_pageOf_or moved with onPage | onLater
        · exact ⟨first, List.mem_cons_self, firstEq ▸ onPage⟩
        · cases rest with
          | nil =>
              rw [List.getLast?_singleton] at lastEq
              cases lastEq
              rw [firstEq] at short
              rw [drop_eq_nil_of_short short] at onLater
              exact absurd onLater List.not_mem_nil
          | cons next others =>
              have remaining := ((growing _ _ storeValid later).drop _).subset onLater
              rw [List.getLast?_cons_cons] at lastEq
              obtain ⟨answer, answerMem, found⟩ := restComplete row remaining ⟨last, lastEq, short⟩
              exact ⟨answer, List.mem_cons_of_mem _ answerMem, found⟩
      · refine List.forall_mem_cons.mpr ⟨?_, restListed⟩
        intro row rowMem
        rw [firstEq] at rowMem
        exact ⟨moment, mem_of_mem_pageOf rowMem⟩

end Program

end Manbaa.Lib
