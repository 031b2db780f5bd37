import VmScan.Detection.Basic
import VmScan.Text.Lines

/-!
# Prompts

What a model is told before it sees a script, and what it is asked.

* `systemPrompt` — the task, the form of the lines, the rules for confidences, and the form of the
  answer, whose free texts are to be in a given language (`build_system_prompt`).
* `userPrompt` — the question with the lines of a batch (`build_user_prompt`).
-/

namespace VmScan.Prompt

open VmScan.Detection

/-- The structures that a model may report. The flat form of older answers has one more. -/
def reportedStructures : List Structure :=
  Structure.all.filter (· ≠ .stackOperation)

/-- The names of the structures that a model may report. -/
def structures : String :=
  " | ".intercalate (reportedStructures.map (·.label))

/-- The names of the confidences. -/
def levels : String :=
  " | ".intercalate (Confidence.all.map (·.label))

/-- Who the model is. -/
def purposeLines : List String := [
    "You are a senior JavaScript reverse engineer and de-obfuscation expert. Your "
      ++ "specialty is analyzing JSVMP (JavaScript Virtual Machine Protection).",
    ""]

/-- What a virtual machine in a script consists of. -/
def machineLines : List String := [
    "## What is JSVMP?",
    "JSVMP compiles the original JavaScript into custom bytecode and runs it on an "
      ++ "interpreter (a virtual machine) written in JavaScript. Its key parts:",
    "1. The virtual stack: a central array holding operands and results (e.g. "
      ++ "`stack[pointer++]`, `v[p--]`).",
    "2. The dispatcher: a control structure inside a loop that picks the next "
      ++ "instruction from the current opcode. Common variants are a huge `switch`, a "
      ++ "deeply nested binary-search `if-else` chain, or a handler array "
      ++ "(`handlers[opcode]()`).",
    "3. The bytecode: a large string or integer array encoding the program.",
    ""]

/-- How the lines that the model is given look. -/
def inputLines : List String := [
    "## Input format",
    "Each line is `LineNo SourceLoc Code`, for example `   10 L234:56    var x = "
      ++ "s[p++];`.",
    "LineNo (first column) is the line in the beautified file; use it for every line "
      ++ "number you report. SourceLoc (second column, may be blank) is the original "
      ++ "minified position `L<line>:<column>`; copy it into source_line / source_column "
      ++ "when you report a line that has one.",
    ""]

/-- When which confidence is to be stated. -/
def confidenceLines : List String := [
    "## Confidence rules",
    "- ultra_high: main loop + dispatcher + stack operations in the same block.",
    "- high: a distinct dispatcher (switch with >20 cases, if-else chain nested >10 "
      ++ "levels on integer values) or a large array of handler functions.",
    "- medium: isolated stack operations or suspicious loops over a string/array with "
      ++ "no dispatcher nearby.",
    "- low: generic obfuscation (short names, comma operators) without structural "
      ++ "proof.",
    ""]

/-- What is to be identified in a region. -/
def componentLines : List String := [
    "## VM components",
    "For each region identify, when visible, the variables acting as the instruction "
      ++ "pointer, stack pointer, virtual stack and bytecode array, the line where a "
      ++ "loop-entry hook should go (inside the loop, before the opcode read), and the "
      ++ "breakpoint line (the opcode fetch statement). Use null for anything you cannot "
      ++ "identify.",
    ""]

/-- How the answer is to be written; the free texts in the given language. -/
def outputLines (language : String) : List String := [
    "## Output",
    "Return ONLY a valid JSON object. No markdown fences, no prose.",
    "Write every free-text field (summary, descriptions, reasoning) in " ++ language
      ++ ", briefly.",
    ""]

/-- The form of the answer. -/
def formLines : List String := [
    "\x7b",
    "  \"summary\": \x7b",
    "    \"overall_description\": \"<what the code contains>\",",
    "    \"debugging_recommendation\": \"<where to set breakpoints and why>\"",
    "  \x7d,",
    "  \"global_bytecode\": \x7b",
    "    \"variable_name\": \"<name or null>\",",
    "    \"definition_line\": <LineNo or null>,",
    "    \"source_line\": <int or null>,",
    "    \"source_column\": <int or null>,",
    "    \"pattern_type\": \"<2d_array | 1d_slice | unknown>\",",
    "    \"local_bytecode_var\": \"<name or null>\",",
    "    \"transform_expression\": \"<expression or null>\",",
    "    \"structure_description\": \"<text or null>\",",
    "    \"description\": \"<text>\"",
    "  \x7d,",
    "  \"regions\": [",
    "    \x7b",
    "      \"start_line\": <LineNo>,",
    "      \"end_line\": <LineNo>,",
    "      \"type\": \"<" ++ structures ++ ">\",",
    "      \"confidence\": \"<" ++ levels ++ ">\",",
    "      \"description\": \"<why this was flagged; name the variables involved>\",",
    "      \"vm_components\": \x7b",
    "        \"instruction_pointer\": \x7b\"variable_name\": \"<name or null>\", "
      ++ "\"line_number\": <LineNo or null>, \"source_line\": <int or null>, "
      ++ "\"source_column\": <int or null>, \"confidence\": \"<" ++ levels
      ++ ">\", \"reasoning\": \"<text>\"\x7d,",
    "        \"stack_pointer\": \x7b ...same fields... \x7d,",
    "        \"virtual_stack\": \x7b ...same fields... \x7d,",
    "        \"bytecode_array\": \x7b ...same fields... \x7d,",
    "        \"loop_entry\": \x7b\"line_number\": <LineNo>, \"source_line\": <int or "
      ++ "null>, \"source_column\": <int or null>, \"description\": \"<text>\"\x7d,",
    "        \"breakpoint\": \x7b\"line_number\": <LineNo>, \"source_line\": <int or "
      ++ "null>, \"source_column\": <int or null>, \"opcode_read_pattern\": \"<code or "
      ++ "null>\", \"description\": \"<text>\"\x7d",
    "      \x7d",
    "    \x7d",
    "  ]",
    "\x7d",
    "If nothing matches, return an empty \"regions\" array.",
    ""]

/-- What a model is told before it sees a script. -/
def systemPrompt (language : String) : String :=
  Text.unlines (purposeLines ++ machineLines ++ inputLines ++ confidenceLines ++ componentLines
    ++ outputLines language ++ formLines)

/-- What a model is asked about the lines of a batch. -/
def userPrompt (code : String) : String :=
  "请分析以下代码，识别 JSVMP 保护结构：\n\n" ++ code

end VmScan.Prompt
