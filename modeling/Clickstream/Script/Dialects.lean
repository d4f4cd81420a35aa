import Clickstream.Language
import Clickstream.Script.Names
import Clickstream.Script.Dialect

/-
  The dialects of the four test languages. JavaScript and
  TypeScript tests differ in one line; the others have their
  own spellings. All of them spell literals with the same
  escapes.

  Key definitions:
    * `Script.scriptDialect`: both web languages
    * `Script.pythonDialect`
    * `Script.javaDialect`
    * `Language.dialect`
-/

namespace Clickstream

namespace Script

------------------------------------------------------------
-- Shared Spellings
------------------------------------------------------------

/- Where the person who finishes the test goes on. -/
def assertionHint : String :=
  "Add assertions for the expected outcome here"

/- Method names of the languages with camel case. -/
def camelMethod : Method → String
  | .goto => "goto"
  | .click => "click"
  | .doubleClick => "dblclick"
  | .fill => "fill"
  | .check => "check"
  | .uncheck => "uncheck"
  | .selectOption => "selectOption"
  | .setInputFiles => "setInputFiles"
  | .hover => "hover"
  | .focus => "focus"
  | .blur => "blur"
  | .waitFor => "waitFor"
  | .press => "press"
  | .evaluate => "evaluate"
  | .down => "down"
  | .up => "up"
  | .waitForTimeout => "waitForTimeout"

/- Accessor names of the languages with camel case. -/
def camelAccessor : Accessor → String
  | .frameLocator => "frameLocator"
  | .locator => "locator"
  | .testId => "getByTestId"
  | .label => "getByLabel"
  | .placeholder => "getByPlaceholder"
  | .altText => "getByAltText"
  | .title => "getByTitle"

------------------------------------------------------------
-- JavaScript and TypeScript
------------------------------------------------------------

/- The dialect of a web language, given its first line. -/
def scriptDialect (importLine : String) : Dialect where
  mark := '\''
  quotesCode := false
  methodName := camelMethod
  objectName
    | .page => "page"
    | .keyboard => "page.keyboard"
    | .mouse => "page.mouse"
  accessorName := camelAccessor
  roleAccessor := "getByRole"
  roleConstant := none
  roleNameOpen _ := ", \x7b name: "
  roleNameClose := " \x7d"
  listOpen := "["
  listClose := "]"
  fileOpen := ""
  fileClose := ""
  filesOpen := "["
  filesClose := "]"
  buttonOption
    | .left => "\x7b button: 'left' \x7d"
    | .right => "\x7b button: 'right' \x7d"
  statementOpen := "await "
  statementClose := ";"
  commentOpen := "// "
  guardComment cs := cs
  indentUnit := "  "
  bodyDepth := 1
  header testName :=
    [importLine, "",
      "test(" ++ Text.Quoted.write '\'' testName ++
        ", async (\x7b page \x7d) => \x7b"]
  footer := ["  // " ++ assertionHint, "\x7d);"]
  stepOpen := "await test.step("
  stepOpenEnd := ", async () => \x7b"
  stepClose := some "\x7d);"
  filler := none

/- JavaScript under the test runner of the framework. -/
def javaScriptDialect : Dialect :=
  scriptDialect
    ("const \x7b test, expect \x7d = " ++
      "require('@playwright/test');")

/- TypeScript under the test runner of the framework. -/
def typeScriptDialect : Dialect :=
  scriptDialect
    "import \x7b test, expect \x7d from '@playwright/test';"

------------------------------------------------------------
-- Python
------------------------------------------------------------

/- Method names with underscores. -/
def snakeMethod : Method → String
  | .selectOption => "select_option"
  | .setInputFiles => "set_input_files"
  | .waitFor => "wait_for"
  | .waitForTimeout => "wait_for_timeout"
  | other => camelMethod other

/- Accessor names with underscores. -/
def snakeAccessor : Accessor → String
  | .frameLocator => "frame_locator"
  | .locator => "locator"
  | .testId => "get_by_test_id"
  | .label => "get_by_label"
  | .placeholder => "get_by_placeholder"
  | .altText => "get_by_alt_text"
  | .title => "get_by_title"

/- Python with the framework's fixtures for tests. -/
def pythonDialect : Dialect where
  mark := '"'
  quotesCode := true
  methodName := snakeMethod
  objectName
    | .page => "page"
    | .keyboard => "page.keyboard"
    | .mouse => "page.mouse"
  accessorName := snakeAccessor
  roleAccessor := "get_by_role"
  roleConstant := none
  roleNameOpen _ := ", name="
  roleNameClose := ""
  listOpen := "["
  listClose := "]"
  fileOpen := ""
  fileClose := ""
  filesOpen := "["
  filesClose := "]"
  buttonOption
    | .left => "button=\"left\""
    | .right => "button=\"right\""
  statementOpen := ""
  statementClose := ""
  commentOpen := "# "
  guardComment cs := cs
  indentUnit := "    "
  bodyDepth := 1
  header testName :=
    ["from contextlib import contextmanager", "",
      "from playwright.sync_api import Page, expect", "", "",
      "@contextmanager", "def step(title: str):",
      "    print(f\"Step: \x7btitle\x7d\")", "    yield", "",
      "",
      "def " ++ snakeName testName ++ "(page: Page) -> None:"]
  footer := ["    # " ++ assertionHint]
  stepOpen := "with step("
  stepOpenEnd := "):"
  stepClose := none
  filler := some "pass"

------------------------------------------------------------
-- Java
------------------------------------------------------------

/-
  Part every `\u` in a comment. The compiler would read it as
  a character before it knows what a comment is.
-/
def partUnicode : List Char → List Char
  | '\\' :: 'u' :: rest => '\\' :: ' ' :: 'u' :: partUnicode rest
  | c :: rest => c :: partUnicode rest
  | [] => []

/- The names of options types by what one looks in. -/
def optionsOwner : Scope → String
  | .page => "Page"
  | .frameLocator => "FrameLocator"
  | .locator => "Locator"

/- Java with the usual runner of unit tests. -/
def javaDialect : Dialect where
  mark := '"'
  quotesCode := true
  methodName
    | .goto => "navigate"
    | other => camelMethod other
  objectName
    | .page => "page"
    | .keyboard => "page.keyboard()"
    | .mouse => "page.mouse()"
  accessorName := camelAccessor
  roleAccessor := "getByRole"
  roleConstant := some "AriaRole."
  roleNameOpen scope :=
    ", new " ++ optionsOwner scope ++
      ".GetByRoleOptions().setName("
  roleNameClose := ")"
  listOpen := "new String[] \x7b"
  listClose := "\x7d"
  fileOpen := "Paths.get("
  fileClose := ")"
  filesOpen := "new Path[] \x7b"
  filesClose := "\x7d"
  buttonOption
    | .left =>
        "new Locator.ClickOptions()" ++
          ".setButton(MouseButton.LEFT)"
    | .right =>
        "new Locator.ClickOptions()" ++
          ".setButton(MouseButton.RIGHT)"
  statementOpen := ""
  statementClose := ";"
  commentOpen := "// "
  guardComment := partUnicode
  indentUnit := "    "
  bodyDepth := 3
  header testName :=
    ["import com.microsoft.playwright.*;",
      "import com.microsoft.playwright.options.*;",
      "import org.junit.jupiter.api.Test;", "",
      "import java.nio.file.Path;",
      "import java.nio.file.Paths;", "",
      "public class " ++ pascalName testName ++ " \x7b",
      "    private static void step(" ++
        "String title, Runnable body) \x7b",
      "        System.out.println(\"Step: \" + title);",
      "        body.run();", "    \x7d", "", "    @Test",
      "    void " ++ camelName testName ++ "() \x7b",
      "        try (Playwright playwright = " ++
        "Playwright.create()) \x7b",
      "            Browser browser = " ++
        "playwright.chromium().launch();",
      "            Page page = browser.newPage();"]
  footer :=
    ["            // " ++ assertionHint,
      "            browser.close();", "        \x7d",
      "    \x7d", "\x7d"]
  stepOpen := "step("
  stepOpenEnd := ", () -> \x7b"
  stepClose := some "\x7d);"
  filler := none

end Script

------------------------------------------------------------
-- Languages
------------------------------------------------------------

/- The dialect of a language. -/
def Language.dialect : Language → Script.Dialect
  | .javaScript => Script.javaScriptDialect
  | .typeScript => Script.typeScriptDialect
  | .python => Script.pythonDialect
  | .java => Script.javaDialect

end Clickstream
