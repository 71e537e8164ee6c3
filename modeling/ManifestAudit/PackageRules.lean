import ManifestAudit.Lookup
import ManifestAudit.Range.Requirement

/-!
# Rules for package.json

The fourteen good practices for a project's package.json. Every check looks up
what it needs and does not apply where that is absent; two of them pass instead,
since they only object to something being there.
-/

namespace ManifestAudit.PackageRules

open Requirement (Note)

/-- The file that the rules are about. -/
def manifestName : String := "package.json"

/-- A development dependency as the document declares it, or null. -/
def devDependency (document : Json.Value) (name : String) : Json.Value :=
  Lookup.dig document ["devDependencies", name]

/-- A script of the document, or null. -/
def script (document : Json.Value) (name : String) : Json.Value :=
  Lookup.dig document ["scripts", name]

/-- The answer to a check that leaves no notes. -/
def answer (outcome : Outcome) : Noted Note Verdict :=
  .silent (.outcome outcome)

/-- The verdict that a yes or no makes. -/
def verdict (value : Bool) : Verdict :=
  .value (.boolean value)

/-- Passes where a value is declared. -/
def passIfDeclared (value : Json.Value) : Noted Note Verdict :=
  answer (if value.isNull then .notApplicable else .passed)

/-- Fails where a declared dependency may be satisfied by the floor, a version
just too low, or by anything below it. -/
def floorCheck (document : Json.Value) (name : String) (floor : Version) : Noted Note Verdict :=
  let declared := devDependency document name
  if declared.isNull then answer .notApplicable
  else (Requirement.isAbove declared floor).map verdict

/-- The private ESLint configuration is not used. -/
def publicEslintConfig (document : Json.Value) : Noted Note Verdict :=
  if (Lookup.dig document ["devDependencies"]).isNull then answer .notApplicable
  else if (devDependency document "gfp-eslint-config").isNull then answer .passed
  else answer .failed

/-- The public ESLint configuration is used. -/
def usesEslintConfig (document : Json.Value) : Noted Note Verdict :=
  passIfDeclared (devDependency document "eslint-config-gfp")

/-- The Angular module does not come from the private host. -/
def publicAngularModule (document : Json.Value) : Noted Note Verdict :=
  let declared := devDependency document "angular-module-no-deps"
  answer (if Lookup.containsText declared "stash.mrgreen.zone" then .failed else .passed)

/-- The documentation generator is used. -/
def usesDocumentation (document : Json.Value) : Noted Note Verdict :=
  passIfDeclared (devDependency document "documentation")

/-- There is a lint script. -/
def hasLintScript (document : Json.Value) : Noted Note Verdict :=
  passIfDeclared (script document "lint")

/-- The prebuilt PhantomJS is used instead of the one built on installation. -/
def prebuiltPhantom (document : Json.Value) : Noted Note Verdict :=
  if !(devDependency document "phantomjs").isNull then answer .failed
  else passIfDeclared (devDependency document "phantomjs-prebuilt")

/-- The PhantomJS launcher may be version 1.0.0. -/
def phantomLauncher (document : Json.Value) : Noted Note Verdict :=
  let declared := devDependency document "karma-phantomjs-launcher"
  if declared.isNull then answer .notApplicable
  else (Requirement.admits declared (Version.release 1 0 0)).map verdict

/-- The hooks that husky runs before a push are set up. -/
def prepushHooks (document : Json.Value) : Noted Note Verdict :=
  if (devDependency document "husky").isNull then answer .notApplicable
  else passIfDeclared (script document "prepush")

/-- The polyfill does not come from a private repository. -/
def publicPolyfill (document : Json.Value) : Noted Note Verdict :=
  let declared := devDependency document "require-polyfill"
  answer (if Lookup.containsText declared "ssh://" then .failed else .passed)

/-- The checks run after every installation. -/
def runsAfterInstall (document : Json.Value) : Noted Note Verdict :=
  answer <|
    if Lookup.containsText (script document "postinstall") "gfp-doctor" then .passed
    else .notApplicable

/-- A rule whose check looks at the document alone. -/
def rule (id description advice : String) (check : Json.Value → Noted Note Verdict) : Rule Note :=
  ⟨id, description, advice, fun document _ => check document⟩

/-- The rules in the order in which they are reported. -/
def rules : List (Rule Note) :=
  [rule "public-eslint-config" "using public npm version of gfp eslint config"
      ("remove \"gfp-eslint-config\" from package.json and run " ++
        "\"npm install --save-dev eslint eslint-config-gfp\"")
      publicEslintConfig,
    rule "eslint-config-gfp" "using eslint-config-gfp"
      "run \"npm install --save-dev eslint-config-gfp\""
      usesEslintConfig,
    rule "public-angular-module-no-deps" "using public npm version of angular-module-no-deps"
      ("remove \"angular-module-no-deps\" from package.json and run " ++
        "\"npm install --save-dev angular-module-no-deps\"")
      publicAngularModule,
    rule "documentationjs" "using documentationjs"
      ("should be using documentationjs to generate JSDoc to README: " ++
        "\"npm install --save-dev documentation\" \n" ++
        "then add scripts: \n" ++
        "\"docs\": \"npm run docs:md\",\n" ++
        "\"docs:md\": \"documentation readme <source files>.js --section 'API'\"")
      usesDocumentation,
    rule "lint-script" "has npm script lint"
      ("should have a npm script lint\n" ++
        "then add script: \n" ++
        "\"lint\": \"eslint *.js\"")
      hasLintScript,
    rule "phantomjs-prebuilt" "should be using phantomjs-prebuilt"
      ("remove phantomjs from package.json, then run \n" ++
        "npm install --save-dev phantomjs-prebuilt")
      prebuiltPhantom,
    rule "karma-phantomjs-launcher-1" "should use \"karma-phantomjs-launcher\" 1 and up"
      "set \"karma-phantomjs-launcher\" to use \"^1.0.0\""
      phantomLauncher,
    rule "prepush-hooks" "should use prepush hooks"
      ("run:\n" ++
        "npm install --save-dev husky\n" ++
        "then add the following to npm scripts:\n" ++
        "\"prepush\": \"npm run lint && karma start --single-run\"")
      prepushHooks,
    rule "public-require-polyfill" "should use public require-polyfill"
      ("remove require-polyfill from package.json, then run \n" ++
        "npm install --save-dev require-polyfill\n")
      publicPolyfill,
    rule "eslint-config-gfp-3" "should use eslint-config-gfp 3.0.0 and up"
      "set eslint-config-gfp to use version \"^3.0.0\" in package.json"
      (floorCheck · "eslint-config-gfp" (Version.release 2 9 9)),
    rule "postinstall-gfp-doctor" "should run gfp-doctor after install"
      ("add the following to npm scripts:\n" ++
        "\"postinstall\": \"gfp-doctor\"")
      runsAfterInstall,
    rule "karma-1.7" "should use \"karma\" 1.7.0 and up"
      "set \"karma\" to use \"^1.7.0\""
      (floorCheck · "karma" (Version.release 1 6 9)),
    rule "karma-coverage-1.1" "should use \"karma-coverage\" 1.1.0 and up"
      "set \"karma-coverage\" to use \"^1.1.0\""
      (floorCheck · "karma-coverage" (Version.release 1 0 9)),
    rule "karma-jasmine-1.1" "should use \"karma-jasmine\" 1.1.0 and up"
      "set \"karma-jasmine\" to use \"^1.1.0\""
      (floorCheck · "karma-jasmine" (Version.release 1 0 9))]

/-- The rule set for package.json. -/
def ruleSet : RuleSet Note :=
  ⟨manifestName, rules, manifestName, by decide +kernel⟩

end ManifestAudit.PackageRules
