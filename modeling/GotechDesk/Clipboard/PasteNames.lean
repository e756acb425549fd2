import GotechDesk.FileTransfer.Containment
import GotechDesk.Clipboard.PasteFiles

set_option autoImplicit false

namespace GotechDesk.Clipboard

open Segments FileTransfer

theorem unix_sep : Style.unix.isSep = (· == '/') := by
  funext c
  simp [Style.isSep]

theorem valid_segment_plain (name segment : Name) (valid : validateFileName name = .ok ()) (member : segment ∈ segments (· == '/') name) :
    PlainSegment segment := by
  unfold validateFileName at valid
  by_cases bad : (isDrivePath name || (segments (· == '/') name).any (fun component => component = [] || component = ['.'])) = true
  · rw [if_pos bad] at valid
    cases valid
  · rw [if_neg bad] at valid
    simp only [Bool.or_eq_true, List.any_eq_true, decide_eq_true_eq, not_or, not_exists, not_and] at bad
    have named := bad.2 segment member
    cases down : validateFileNameNoTraversal .unix name with
    | error text =>
        rw [down] at valid
        cases valid
    | ok _ =>
        have plain := plainName_of_validated .unix name down
        refine ⟨named.1, named.2, plain.down segment (unix_sep ▸ member), ?_⟩
        exact mem_segments_plain _ name segment (unix_sep ▸ member)

theorem valid_unrooted (name : Name) (valid : validateFileName name = .ok ()) : PlainName .unix name ∧ name ≠ [] := by
  refine ⟨?_, ?_⟩
  · unfold validateFileName at valid
    split at valid
    · cases valid
    · cases down : validateFileNameNoTraversal .unix name with
      | error text =>
          rw [down] at valid
          cases valid
      | ok _ => exact plainName_of_validated .unix name down
  · rintro rfl
    exact (valid_segment_plain [] [] valid (by simp [segments])).some rfl

end GotechDesk.Clipboard
