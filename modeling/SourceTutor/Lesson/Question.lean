/-!
# Questions

Every source file is explained by the answers to a fixed list of questions. Each question comes
with the ending of the name of the file that its answer goes into, the title above the answer, and
the words that link to it.
-/

set_option autoImplicit false

namespace SourceTutor

/-- A question and where its answer goes. -/
structure Question where
  prompt : String
  /-- How the name of the file with the answer ends. -/
  suffix : String
  heading : String
  /-- The words that link to the answer. -/
  label : String
  deriving DecidableEq

namespace Question

/-- What the code is for. -/
def overview : Question where
  prompt :=
    "What is the purpose of this code? Explain the main functionality, the algorithms used and " ++
    "the overall structure. Describe the problem being solved, the approach taken, and how the " ++
    "different parts of the code work together."
  suffix := "_overview.md"
  heading := "Code Overview"
  label := "Overview"

/-- What each part of the code does. -/
def lineByLine : Question where
  prompt :=
    "Give an extremely thorough, step-by-step explanation of the code, as if teaching " ++
    "someone who is learning to program. For each significant section:\n\n1. Explain " ++
    "exactly what it does in simple terms\n2. Break down the logic and control flow in " ++
    "detail\n3. Define technical terms and concepts when they first appear\n4. Use " ++
    "examples to illustrate complex ideas where helpful\n5. Explain WHY an approach or " ++
    "technique is used, not only WHAT it does\n6. For complex algorithms or data " ++
    "structures, explain the underlying principles\n7. Add simple text diagrams where they " ++
    "clarify flow or structure\n\nBe especially careful with loops, conditionals, function " ++
    "calls and any complex operations. Assume no prior knowledge: the goal is to make this " ++
    "code understandable to everyone."
  suffix := "_line_by_line.md"
  heading := "Step-by-Step Explanation"
  label := "Step-by-Step Explanation"

/-- What could be better. -/
def improvements : Question where
  prompt :=
    "What improvements could be made to this code? Consider performance, readability, " ++
    "maintainability, potential bugs, error handling and best practices. For each suggestion " ++
    "explain WHY it is an improvement and HOW to implement it, with code examples where " ++
    "appropriate."
  suffix := "_improvements.md"
  heading := "Suggested Improvements"
  label := "Suggested Improvements"

/-- The three questions that are asked about every file, in order. -/
def standard : List Question := [overview, lineByLine, improvements]

end Question

end SourceTutor
