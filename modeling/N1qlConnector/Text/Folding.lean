/-!
# Comparing regardless of case

Two letters are compared without their case by comparing what they fold to. Only words of the
letters from `a` to `z` without `k` are ever compared, so only what folds to those letters matters.
-/

namespace N1qlConnector.Text

/-- The form in which letters are compared regardless of case. Beside the capital letters the long s
stands for an s. -/
def foldCase (c : Char) : Char := if c = '\u017f' then 's' else c.toLower

end N1qlConnector.Text
