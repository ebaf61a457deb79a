import SmithyGen.Proofs.Idl.Places
import SmithyGen.Proofs.Text

namespace SmithyGen.Idl

/-- A member is named in its own block, so a block that shows the trait requires all of them. -/
theorem requireAll_members (ns : String) (body : List Char) :
    requireAll body (members ns body)
      = if Text.occursIn "@required".toList body then
          (members ns body).map fun (k, m) => (k, m.require)
        else members ns body := by
  unfold requireAll
  split_ifs
  · refine List.map_congr_left fun entry hentry => ?_
    have hshown : Text.occursIn entry.1.toList body = true :=
      Text.occursIn_iff_infix.mpr (mem_members hentry).1
    simp only [hshown, if_true]
  · rfl

namespace Member

theorem require_target (m : Member) : m.require.target = m.target := by
  unfold require
  split_ifs <;> rfl

end Member

end SmithyGen.Idl
