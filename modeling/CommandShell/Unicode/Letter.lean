import CommandShell.Unicode.Property

/-!
# Letters and numbers

The letters and numbers of all scripts as names are made of them.  They follow version 17.0 of
the standard, which has the letters and numbers of version 16.0 and some more.
-/

namespace CommandShell.Unicode

/-- The letters that were added. -/
def addedLetters : CodeSet :=
  CodeSet.ofTable
    "88f c5c cdc a7ce-a7cf a7d2 a7d4 a7f1 10940-10959 10ec5-10ec7 10efa-10efb 11b60-11b67
    11db0-11ddb 16ea0-16eb8 16ebb-16ed3 16ff2-16ff6 187f8-187ff 18d09-18d1e 18d80-18df2
    1e6c0-1e6de 1e6e0-1e6f5 1e6fe-1e6ff 2b73a-2b73f 2cea2-2cead 323b0-33479"

/-- The numbers that were added. -/
def addedNumbers : CodeSet :=
  CodeSet.ofTable "11de0-11de9 16ff4-16ff6"

/-- The letters of all scripts. -/
def letters : CodeSet :=
  ((binary? "Alphabetic").getD .empty).union addedLetters

/-- The numbers of all scripts. -/
def numbers : CodeSet :=
  ((category? "N").getD .empty).union addedNumbers

/-- A letter.  Those of the first block are known without the table. -/
def isLetter (c : Char) : Bool :=
  if c.toNat < 128 then Text.isLetter c else letters.contains c.toNat

/-- A number.  Those of the first block are known without the table. -/
def isNumber (c : Char) : Bool :=
  if c.toNat < 128 then Text.isDigit c else numbers.contains c.toNat

end CommandShell.Unicode
