import PullReview.Review.Specialty
import PullReview.Text.Search
/-!
# What the reviewers are asked

Every reviewer is given the same material, the changes and the context, and instructions for its specialty.  The form in
which issues are to be written is part of the instructions.
-/
namespace PullReview
namespace Review

open Text

def task : Specialty → String
  | .security => "You are a Security Analysis Agent. Analyze code changes for security vulnerabilities."
  | .quality => "You are a Code Quality Agent. Analyze code for bugs, errors, and quality issues."
  | .performance => "You are a Performance Analysis Agent. Identify performance bottlenecks."

def securityInstructions : List String :=
  [
    "- Provide a BRIEF summary paragraph (3-5 sentences max)",
    "- Then list vulnerabilities with EXACT file:line where the vulnerable code exists",
    "- Focus on critical/high severity: injection, XSS, auth bypass, data exposure",
    "- **IMPORTANT:** The line number MUST point to the EXACT line with the vulnerable code",
    "",
    "**Output Format:**",
    "",
    "[Brief 3-5 sentence summary of security issues and their potential impact]",
    "",
    "**Vulnerabilities:**",
    "- `file:line` - [Description]",
    "  - **Current code:** `[exact vulnerable code from that line]`",
    "  - **Fix:** `[secure code]`",
    "",
    "**Example:**",
    "Found 1 critical SQL injection vulnerability in the authentication module. An attacker could bypass login " ++
      "and gain unauthorized access to user accounts.",
    "",
    "**Vulnerabilities:**",
    "- `auth.py:42` - SQL injection in user login query",
    "  - **Current code:** `cursor.execute(f\"SELECT * FROM users WHERE id = \x7buser_id\x7d\")`",
    "  - **Fix:** `cursor.execute(\"SELECT * FROM users WHERE id = ?\", (user_id,))`",
    "",
    "**CRITICAL RULES:**",
    "1. Line numbers MUST match the EXACT line with the vulnerability",
    "2. Current code MUST be the EXACT code from that line",
    "3. Do NOT point to function definitions when the issue is in the function body",
    "",
    "If no critical issues, return: \"No critical security issues found.\""]

def qualityInstructions : List String :=
  [
    "- Provide a BRIEF summary paragraph of issues found (3-5 sentences max)",
    "- Then list each issue with EXACT file:line where the problematic code exists",
    "- Focus on CRITICAL bugs: syntax errors, undefined variables, type errors, logic errors",
    "- **IMPORTANT:** The line number MUST point to the EXACT line with the problematic code, not function " ++
      "definitions or class declarations",
    "",
    "**Output Format:**",
    "",
    "[Brief 3-5 sentence summary of the types of issues found and their impact]",
    "",
    "**Issues:**",
    "- `file:line` - [Brief description]",
    "  - **Current code:** `[exact problematic code from that line]`",
    "  - **Fix:** `[corrected code]`",
    "",
    "**Example:**",
    "Found 3 critical bugs that will cause runtime errors. Undefined variables are used in calculations, and " ++
      "there are syntax errors in the main function.",
    "",
    "**Issues:**",
    "- `main.py:7` - Undefined variable `c` used in calculation",
    "  - **Current code:** `addition = sum(a, b) + c`",
    "  - **Fix:** `addition = sum(a, b)`",
    "",
    "**CRITICAL RULES:**",
    "1. Line numbers MUST match the EXACT line with the problem",
    "2. Current code MUST be the EXACT code from that line",
    "3. Do NOT point to function definitions when the issue is in the function body",
    "4. Verify line numbers against the diff data",
    "",
    "If code is clean, return: \"No major quality issues found.\""]

def performanceInstructions : List String :=
  [
    "- Provide a BRIEF summary paragraph (3-5 sentences max)",
    "- Then list bottlenecks with EXACT file:line where the slow code exists",
    "- Focus on significant issues: O(n²) algorithms, unnecessary loops, missing caching",
    "- **IMPORTANT:** The line number MUST point to the EXACT line with the performance issue",
    "",
    "**Output Format:**",
    "",
    "[Brief 3-5 sentence summary of performance issues and their impact]",
    "",
    "**Optimizations:**",
    "- `file:line` - [Description]",
    "  - **Current code:** `[exact slow code from that line]`",
    "  - **Fix:** `[optimized code]`",
    "",
    "**Example:**",
    "Found 1 significant performance bottleneck with O(n²) complexity. This could cause slow performance with " ++
      "large datasets (>1000 items).",
    "",
    "**Optimizations:**",
    "- `utils.py:15` - Nested loop causing quadratic complexity",
    "  - **Current code:** `if item in seen_list:`",
    "  - **Fix:** `if item in seen_set:`",
    "",
    "**CRITICAL RULES:**",
    "1. Line numbers MUST match the EXACT line with the performance issue",
    "2. Current code MUST be the EXACT code from that line",
    "3. Do NOT point to function definitions when the issue is in the function body",
    "",
    "If no significant issues, return: \"No performance issues detected.\""]

def instructions : Specialty → List String
  | .security => securityInstructions
  | .quality => qualityInstructions
  | .performance => performanceInstructions

def prompt (s : Specialty) (diff context : String) : String :=
  joinLines
    (["", task s, "", "**Code Changes:**", diff, "", "**Context:**", context, "", "**Instructions:**"] ++
      instructions s ++ [""])

end Review
end PullReview
