import ContributionRegistry.Database.Tables
import ContributionRegistry.Proofs.Amount.Rereading
import ContributionRegistry.Proofs.Calendar.DayNumbers

/-!
# Records out of their rows

A contribution is read back from the row that is written for it, if its amount is not too large to
be read and its times are ones that milliseconds can tell (`contributionOfRow_insertContribution`).
With a larger amount the row is a failure, which has the text that could not be read.

The period is no obstacle: every period is read from its text.
-/

namespace ContributionRegistry.Database

open Calendar (Timestamp)

/-- The row that a statement writes. -/
def Statement.row (statement : Statement) : Row := statement.values.map Cell.value

/-- A time that milliseconds can tell is read back from its value. -/
theorem readTimestamp_ofTimestamp {t : Timestamp} (h : t.Countable) :
    readTimestamp (.value (.ofTimestamp t)) = .ok t := by
  have hfound := Timestamp.ofUnixMillis?_unixMillis h
  unfold Value.ofTimestamp readTimestamp
  dsimp only
  rw [hfound]

/-- The texts of a contribution are read back from its row. -/
theorem contributionTextsOfRow_insertContribution {c : Contribution}
    (hcreated : c.createdAt.Countable) (hupdated : c.updatedAt.Countable) :
    contributionTextsOfRow (insertContribution c).row = .ok (ContributionTexts.of c) := by
  show contributionTextsOfRow [_, _, _, _, _, .value (.ofTimestamp c.createdAt),
    .value (.ofTimestamp c.updatedAt)] = _
  simp only [contributionTextsOfRow, readTimestamp_ofTimestamp hcreated,
    readTimestamp_ofTimestamp hupdated]
  rfl

/-- The contribution of its texts, unless its amount is too large. -/
theorem contribution_of (c : Contribution) : (ContributionTexts.of c).contribution =
    if c.amount.minorUnits.natAbs < Amount.readBound then .ok c
    else .refuse (.amount ⟨c.amount.text⟩) := by
  unfold ContributionTexts.contribution ContributionTexts.of
  simp only [Period.parse_text, Amount.parse_text]
  split <;> rfl

/-- **A contribution is read back from its row.** -/
theorem contributionOfRow_insertContribution {c : Contribution}
    (hamount : c.amount.minorUnits.natAbs < Amount.readBound) (hcreated : c.createdAt.Countable)
    (hupdated : c.updatedAt.Countable) : contributionOfRow (insertContribution c).row = .ok c := by
  rw [contributionOfRow, contributionTextsOfRow_insertContribution hcreated hupdated]
  dsimp only
  rw [contribution_of, if_pos hamount]
  rfl

end ContributionRegistry.Database
