import SurveyForm.Form.Basic
/-!
An example: a small household survey that uses every construct a form can have.
It has translated and plain captions, a hint, required, read-only and typed
fields, a constraint with a message, a relevance, calculations, a selection and a
repeat inside a group.
-/

namespace SurveyForm.Example

/-- The lines of the survey's document. -/
def lines : List String :=
  [
    "<?xml version=\"1.0\" encoding=\"UTF-8\"?>",
    "<h:html xmlns=\"http://www.w3.org/2002/xforms\"",
    "        xmlns:h=\"http://www.w3.org/1999/xhtml\"",
    "        xmlns:ev=\"http://www.w3.org/2001/xml-events\"",
    "        xmlns:xsd=\"http://www.w3.org/2001/XMLSchema\"",
    "        xmlns:jr=\"http://openrosa.org/javarosa\">",
    "  <h:head>",
    "    <h:title>Household Survey</h:title>",
    "    <model>",
    "      <itext>",
    "        <translation lang=\"English\">",
    "          <text id=\"/household/name:label\">",
    "            <value>Respondent name</value>",
    "          </text>",
    "          <text id=\"/household/age:label\">",
    "            <value>Age</value>",
    "            <value form=\"short\">Age?</value>",
    "          </text>",
    "          <text id=\"/household/age:hint\">",
    "            <value>In completed years</value>",
    "          </text>",
    "        </translation>",
    "        <translation lang=\"French\">",
    "          <text id=\"/household/name:label\">",
    "            <value>Nom du répondant</value>",
    "          </text>",
    "          <text id=\"/household/age:label\">",
    "            <value>Âge</value>",
    "          </text>",
    "        </translation>",
    "      </itext>",
    "      <instance>",
    "        <household id=\"household_survey\">",
    "          <name/>",
    "          <age>30</age>",
    "          <has_children/>",
    "          <children>",
    "            <child_name/>",
    "            <child_age/>",
    "          </children>",
    "          <greeting/>",
    "          <meta>",
    "            <instanceID/>",
    "          </meta>",
    "        </household>",
    "      </instance>",
    "      <bind nodeset=\"/household/name\" type=\"string\" required=\"true()\"/>",
    "      <bind nodeset=\"/household/age\" type=\"int\" required=\"true()\"",
    "            constraint=\". &gt;= 18 and . &lt;= 120\" jr:constraintMsg=\"Must be an adult\"/>",
    "      <bind nodeset=\"/household/has_children\" type=\"select1\" required=\"true()\"/>",
    "      <bind nodeset=\"/household/children\" relevant=\"selected(../has_children, 'yes')\"/>",
    "      <bind nodeset=\"/household/children/child_name\" type=\"string\" required=\"false()\"/>",
    "      <bind nodeset=\"/household/children/child_age\" type=\"int\"",
    "            constraint=\"string-length(.) &lt; 3\"/>",
    "      <bind nodeset=\"greeting\" type=\"string\" readonly=\"true()\"",
    "            calculate=\"concat('Hello ', /household/name)\"/>",
    "      <bind nodeset=\"/household/meta/instanceID\" type=\"string\" readonly=\"true()\"",
    "            calculate=\"concat('uuid:', uuid())\" jr:preload=\"uid\"/>",
    "    </model>",
    "  </h:head>",
    "  <h:body>",
    "    <input ref=\"/household/name\">",
    "      <label ref=\"jr:itext('/household/name:label')\"/>",
    "    </input>",
    "    <input ref=\"/household/age\">",
    "      <label ref=\"jr:itext('/household/age:label')\"/>",
    "      <hint ref=\"jr:itext('/household/age:hint')\"/>",
    "    </input>",
    "    <select1 ref=\"/household/has_children\" appearance=\"minimal\">",
    "      <label>Do you have children?</label>",
    "      <item>",
    "        <label>Yes</label>",
    "        <value>yes</value>",
    "      </item>",
    "      <item>",
    "        <label>No</label>",
    "        <value>no</value>",
    "      </item>",
    "    </select1>",
    "    <group ref=\"/household/children\" appearance=\"field-list\">",
    "      <label>Children</label>",
    "      <repeat nodeset=\"/household/children\">",
    "        <input ref=\"child_name\">",
    "          <label>Child name</label>",
    "        </input>",
    "        <input ref=\"/household/children/child_age\">",
    "          <label>Child age</label>",
    "        </input>",
    "      </repeat>",
    "    </group>",
    "  </h:body>",
    "</h:html>"]

def document : String :=
  "\n".intercalate lines

/-- The survey, loaded with the given options. -/
def form (options : Options) : Except LoadError Form :=
  Form.ofBytes options document.toUTF8

end SurveyForm.Example
